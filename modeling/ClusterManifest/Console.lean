import ClusterManifest.Console.Markup
import ClusterManifest.Text.CellWidth
import ClusterManifest.Text.Phrase

/-! What is told to the user: status lines, panels and documents. A line is composed as
markup, with parts of it taken as they are and parts escaped, and shown as the text that the
markup renders to. The console is taken to be as wide as it has to be, so that no line is
folded, and to encode strictly; colours are left out, and the frame of a panel is drawn in a
plainer way. -/

namespace ClusterManifest.Console

inductive Item
  | text (content : String)
  /-- A framed text with a title. -/
  | panel (title content : String)
  /-- A document, shown as it is. -/
  | document (content : String)
  deriving DecidableEq, Repr

def linesOf (text : String) : List String :=
  (Text.splitAtChar '\n' (text.toList.filter (fun c => !Markup.isDropped c))).map
    (fun line => String.ofList (Text.expandTabs line))

def padded (width : Nat) (line : String) : String :=
  line ++ String.ofList (List.replicate (width - Text.cellsOf line.toList) ' ')

/-- The lines that show a thing: a panel has its title above its lines, with a frame around
both. -/
def Item.lines : Item → List String
  | .text content | .document content => linesOf content
  | .panel title content =>
    let inner := linesOf content
    let width := (title :: inner).foldl (fun most line => max most (Text.cellsOf line.toList)) 0
    let edge := String.ofList (List.replicate (width + 2) '─')
    ["╭" ++ edge ++ "╮"] ++
      (title :: inner).map (fun line => "│ " ++ padded width line ++ " │") ++
      ["╰" ++ edge ++ "╯"]

/-- Why a thing cannot be shown. -/
inductive Fault
  | markup (fault : Markup.Fault)
  /-- A text in it holds a lone surrogate, which the console cannot encode. Which one, and where it
  stands, is left out. -/
  | illFormed
  deriving DecidableEq, Repr

def Fault.message : Fault → String
  | .markup fault => fault.message
  | .illFormed => "surrogates not allowed"

variable [LiteralReader]

def rendered (markup : String) : Except Fault String :=
  ((Markup.render markup.toList).map String.ofList).mapError .markup

def escaped (s : String) : String := String.ofList (Markup.escape s.toList)

def line (markup : String) : Except Fault Item := (rendered markup).map .text

def heading (title : String) : Except Fault Item :=
  line ("[bold blue]── " ++ title ++ " ──[/]")

def success (message : String) : Except Fault Item :=
  line ("  [bold green]✓[/] " ++ message)

def failure (message : String) : Except Fault Item :=
  line ("  [bold red]✗[/] [red]" ++ escaped message ++ "[/]")

def progress (message : String) : Except Fault Item :=
  line ("  [bold cyan]›[/] " ++ message)

/-- A name, whose markup counts, and a value. Of a text with a lone surrogate no more is said than
that, whatever else is wrong with its markup. -/
def detail (name value : Phrase) : Except Fault Item :=
  match name, value with
  | .text name, .text value => line ("    [bold]" ++ name ++ "[/]: " ++ escaped value)
  | _, _ => .error .illFormed

def errorPanel (title message : String) : Except Fault Item := do
  let content ← rendered (escaped message)
  let title ← rendered ("[bold red]" ++ title ++ "[/]")
  return .panel title content

end ClusterManifest.Console
