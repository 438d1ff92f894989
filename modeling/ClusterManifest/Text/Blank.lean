/-! White space in running text, and what is done with it: trimming both ends and
cutting a text into words. The set is the one Unicode gives for separators and
directional white space; it holds every character that core calls white space. -/

namespace ClusterManifest.Text

def isBlank (c : Char) : Bool :=
  let n := c.toNat
  (9 ≤ n && n ≤ 13) || (28 ≤ n && n ≤ 32) || n == 0x85 || n == 0xA0 || n == 0x1680 ||
    (0x2000 ≤ n && n ≤ 0x200A) || n == 0x2028 || n == 0x2029 || n == 0x202F ||
    n == 0x205F || n == 0x3000

/-- White space in the sense of the Unicode property, which leaves out the four
information separators that `isBlank` counts. -/
def isUnicodeSpace (c : Char) : Bool :=
  isBlank c && !(28 ≤ c.toNat && c.toNat ≤ 31)

def trimWhere (p : Char → Bool) (s : List Char) : List Char :=
  ((s.dropWhile p).reverse.dropWhile p).reverse

def trim (s : List Char) : List Char := trimWhere isBlank s

/-- The pieces between the characters of `p`, empty ones included: there is always
one more piece than there are separators. -/
def splitWhere (p : Char → Bool) : List Char → List (List Char)
  | [] => [[]]
  | c :: rest =>
    if p c then [] :: splitWhere p rest
    else
      match splitWhere p rest with
      | [] => [[c]]
      | piece :: pieces => (c :: piece) :: pieces

def splitAtChar (separator : Char) (s : List Char) : List (List Char) :=
  splitWhere (· == separator) s

def words (s : List Char) : List (List Char) :=
  (splitWhere isBlank s).filter (fun piece => !piece.isEmpty)

/-- Pieces put together again with a text between any two. -/
def joinWith (between : List Char) : List (List Char) → List Char
  | [] => []
  | [piece] => piece
  | piece :: pieces => piece ++ between ++ joinWith between pieces

theorem splitWhere_ne_nil (p : Char → Bool) (s : List Char) : splitWhere p s ≠ [] := by
  cases s with
  | nil => simp [splitWhere]
  | cons c rest =>
    rw [splitWhere]
    split
    · exact List.cons_ne_nil _ _
    · split <;> exact List.cons_ne_nil _ _

/-- Nothing but the separators is lost by splitting. -/
theorem joinWith_splitAtChar (separator : Char) (s : List Char) :
    joinWith [separator] (splitAtChar separator s) = s := by
  unfold splitAtChar
  induction s with
  | nil => rfl
  | cons c rest ih =>
    have nonempty := splitWhere_ne_nil (· == separator) rest
    rw [splitWhere]
    split
    · next hc =>
      have : c = separator := by simpa using hc
      subst this
      cases h : splitWhere (· == c) rest with
      | nil => exact absurd h nonempty
      | cons piece pieces => rw [h] at ih; simp [joinWith, ih]
    · cases h : splitWhere (· == separator) rest with
      | nil => exact absurd h nonempty
      | cons piece pieces =>
        rw [h] at ih
        cases pieces with
        | nil => simpa [joinWith] using ih
        | cons q qs => simpa [joinWith] using ih

end ClusterManifest.Text
