/-! Texts as a document gives them. An escape may name a surrogate, half of a pair that stands
for one character elsewhere; a lone one is no character, and a text that holds one is kept as it
is but has no encoding. -/

namespace ClusterManifest

namespace Text

/-- A character or a surrogate. -/
abbrev CodePoint := Fin 0x110000

namespace CodePoint

theorem toNat_lt (c : Char) : c.toNat < 0x110000 := by
  obtain below | ⟨-, below⟩ := c.valid
  · exact Nat.lt_trans below (by decide)
  · exact below

def ofChar (c : Char) : CodePoint := ⟨c.toNat, toNat_lt c⟩

def isSurrogate (code : CodePoint) : Bool := 0xD800 ≤ code.val && code.val ≤ 0xDFFF

/-- The character, if it is one. -/
def char (code : CodePoint) : Char := Char.ofNat code.val

/-- A surrogate takes three bytes in the way of UTF-8, none of which begins or ends anything;
each of them is replaced. -/
def replaced (code : CodePoint) : List Char :=
  if code.isSurrogate then ['\uFFFD', '\uFFFD', '\uFFFD'] else [code.char]

@[simp] theorem val_ofChar (c : Char) : (ofChar c).val = c.toNat := rfl

@[simp] theorem char_ofChar (c : Char) : (ofChar c).char = c := Char.ofNat_toNat c

@[simp] theorem isSurrogate_ofChar (c : Char) : (ofChar c).isSurrogate = false := by
  rw [isSurrogate, val_ofChar, Bool.and_eq_false_iff]
  obtain below | ⟨above, -⟩ := c.valid
  · exact .inl (decide_eq_false (Nat.not_le.mpr below))
  · exact .inr (decide_eq_false (Nat.not_le.mpr above))

theorem ofChar_char {code : CodePoint} (whole : code.isSurrogate = false) :
    ofChar code.char = code := by
  have valid : code.val.isValidChar := by
    simp only [isSurrogate, Bool.and_eq_false_iff, decide_eq_false_iff_not] at whole
    have below := code.isLt
    simp only [Nat.isValidChar]
    omega
  apply Fin.ext
  rw [val_ofChar, char, Char.ofNat, dif_pos valid]
  rfl

end CodePoint

end Text

/-- Code points with a surrogate among them. -/
structure IllFormed where
  codes : List Text.CodePoint
  lone : codes.any Text.CodePoint.isSurrogate = true
  deriving DecidableEq, Repr

inductive Phrase
  | text (value : String)
  | illFormed (value : IllFormed)
  deriving DecidableEq, Repr

namespace Phrase

instance : Coe String Phrase := ⟨text⟩

def isEmpty : Phrase → Bool
  | .text value => value.isEmpty
  | .illFormed _ => false

theorem isEmpty_iff {phrase : Phrase} : phrase.isEmpty = true ↔ phrase = text "" := by
  cases phrase <;> simp [isEmpty]

/-- A text without a lone surrogate. -/
def Whole (phrase : Phrase) : Prop := ∃ value : String, phrase = .text value

/-- A string for it, the same one unless there are surrogates in it. -/
def spelling : Phrase → String
  | .text value => value
  | .illFormed value => String.ofList (value.codes.flatMap Text.CodePoint.replaced)

def followedBy (front : Phrase) (rear : String) : Phrase :=
  match front with
  | .text value => .text (value ++ rear)
  | .illFormed value =>
    .illFormed ⟨value.codes ++ rear.toList.map Text.CodePoint.ofChar, by
      rw [List.any_append, value.lone, Bool.true_or]⟩

end Phrase

end ClusterManifest
