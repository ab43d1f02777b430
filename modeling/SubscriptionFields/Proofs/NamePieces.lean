import Mathlib.Data.List.Infix
import SubscriptionFields.Naming.ShortName

/-!
# The pieces of a name

A name is cut at its delimiters into pieces, and a piece may have a path in front of its last word.
This module describes both without the positions at which the shortening of a name cuts.

The last segment of a piece is what stands behind its last "::" (`IsLastSegment`); the search from
the front, which prefers what it finds further behind, finds it (`isLastSegment_lastSegment`). A
segment has no "::" left, so that it is its own last segment (`lastSegment_unmarked`,
`lastSegment_of_unmarked`). Cutting a text at its delimiters loses nothing (`text_cut`), and a text
is cut on each side of a delimiter by itself (`cut_append_delimiter`).
-/

set_option autoImplicit false

namespace SubscriptionFields.ShortName

/-! ## Paths -/

/-- What stands between a path and the word behind it. -/
def pathMark : List Char := [':', ':']

/-- A path mark stands in a text either at its very front or in what follows the first character. -/
theorem pathMark_infix_cons_iff (c : Char) (text : List Char) :
    pathMark <:+: c :: text ↔ (c = ':' ∧ [':'] <+: text) ∨ pathMark <:+: text := by
  rw [List.infix_cons_iff, pathMark, List.cons_prefix_cons]
  simp only [eq_comm]

/-- The last "::" of a piece, from what stands behind it. It is the last one if there is no other in
the text that begins with its second colon. -/
inductive LastMark (piece : List Char) : Option (List Char) → Prop
  | none (unmarked : ¬ pathMark <:+: piece) : LastMark piece none
  | some (path tail : List Char) (split : piece = path ++ pathMark ++ tail)
      (last : ¬ pathMark <:+: ':' :: tail) : LastMark piece (some tail)

/-- The search from the front finds what follows the last path mark, if there is one. -/
theorem lastMark_afterLastPath? (piece : List Char) : LastMark piece (afterLastPath? piece) := by
  fun_induction afterLastPath? piece with
  | case1 => exact .none (by simp [pathMark])
  | case2 c rest tail found ih =>
    rw [found] at ih
    obtain _ | ⟨path, _, split, last⟩ := ih
    exact .some (c :: path) tail (by rw [split]; rfl) last
  | case3 tail found ih =>
    rw [found] at ih
    obtain ⟨unmarked⟩ | _ := ih
    exact .some [] tail rfl unmarked
  | case4 c tail other found ih =>
    rw [found] at ih
    obtain ⟨unmarked⟩ | _ := ih
    refine .none ?_
    rw [pathMark_infix_cons_iff]
    rintro (⟨colon, -⟩ | marked)
    · exact other colon
    · exact unmarked marked
  | case5 c rest found other ih =>
    rw [found] at ih
    obtain ⟨unmarked⟩ | _ := ih
    refine .none ?_
    rw [pathMark_infix_cons_iff]
    rintro (⟨-, tail, second⟩ | marked)
    · exact other tail second.symm
    · exact unmarked marked

/-- What a piece is without its path. It is the whole piece or stands behind a "::" of it, and no
"::" comes later: whatever stands behind a "::" of the piece ends with it. -/
structure IsLastSegment (piece tail : List Char) : Prop where
  cut : tail = piece ∨ ∃ path, piece = path ++ pathMark ++ tail
  last : ∀ path behind, piece = path ++ pathMark ++ behind → tail <:+ behind

/-- What a piece is shortened to is its last segment. -/
theorem isLastSegment_lastSegment (piece : List Char) :
    IsLastSegment piece (lastSegment piece) := by
  have found := lastMark_afterLastPath? piece
  unfold lastSegment
  cases answer : afterLastPath? piece with
  | none =>
    rw [answer] at found
    obtain ⟨unmarked⟩ | _ := found
    refine ⟨.inl rfl, ?_⟩
    intro path behind split
    exact absurd ⟨path, behind, split.symm⟩ unmarked
  | some tail =>
    rw [answer] at found
    obtain _ | ⟨path, _, split, last⟩ := found
    refine ⟨.inr ⟨path, split⟩, ?_⟩
    intro front behind other
    have tail_suffix : ':' :: tail <:+ piece := ⟨path ++ [':'], by rw [split]; simp [pathMark]⟩
    have marked_suffix : pathMark ++ behind <:+ piece := ⟨front, by rw [other]; simp⟩
    -- a "::" that came later would stand in what begins with the second colon of the last one
    have longer : tail.length ≤ behind.length := by
      by_contra shorter
      have inside : pathMark ++ behind <:+ ':' :: tail :=
        List.suffix_of_suffix_length_le marked_suffix tail_suffix (by simp [pathMark]; omega)
      exact last ((List.prefix_append _ _).isInfix.trans inside.isInfix)
    exact List.suffix_of_suffix_length_le ((List.suffix_cons _ _).trans tail_suffix)
      ((List.suffix_append _ _).trans marked_suffix) longer

/-- The last segment ends its piece. -/
theorem lastSegment_suffix (piece : List Char) : lastSegment piece <:+ piece := by
  rcases (isLastSegment_lastSegment piece).cut with whole | ⟨path, split⟩
  · rw [whole]
  · exact ⟨path ++ pathMark, split.symm⟩

/-- The last segment has no path mark left, so shortening it again changes nothing. -/
theorem lastSegment_unmarked (piece : List Char) : ¬ pathMark <:+: lastSegment piece := by
  rintro ⟨front, behind, split⟩
  obtain ⟨before, whole⟩ := lastSegment_suffix piece
  -- what stands behind this "::" would end with the whole segment
  have ends : lastSegment piece <:+ behind := by
    refine (isLastSegment_lastSegment piece).last (before ++ front) behind ?_
    rw [← whole, ← split]
    simp
  have shorter := ends.length_le
  rw [← split] at shorter
  simp only [pathMark, List.length_append, List.length_cons, List.length_nil] at shorter
  omega

/-- A piece without a path is its own last segment. -/
theorem lastSegment_of_unmarked {piece : List Char} (unmarked : ¬ pathMark <:+: piece) :
    lastSegment piece = piece := by
  rcases (isLastSegment_lastSegment piece).cut with whole | ⟨path, split⟩
  · exact whole
  · exact absurd ⟨path, _, split.symm⟩ unmarked

/-! ## Cuttings -/

/-- A text without delimiters. -/
def Plain (text : List Char) : Prop := ∀ c ∈ text, isDelimiter c = false

/-- The empty text has no delimiter. -/
theorem plain_nil : Plain [] := List.forall_mem_nil _

/-- A text without delimiters stays one when another plain character is added. -/
theorem Plain.concat {text : List Char} {c : Char} (plain : Plain text)
    (other : isDelimiter c = false) : Plain (text ++ [c]) :=
  List.forall_mem_append.2 ⟨plain, List.forall_mem_singleton.2 other⟩

/-- Shortening a piece brings no delimiter into it. -/
theorem Plain.lastSegment {piece : List Char} (plain : Plain piece) :
    Plain (ShortName.lastSegment piece) :=
  fun c listed => plain c ((lastSegment_suffix piece).subset listed)

/-- Nothing of a text without delimiters is kept as a delimiter. -/
theorem Plain.filter_eq_nil {text : List Char} (plain : Plain text) :
    text.filter isDelimiter = [] := by
  rw [List.filter_eq_nil_iff]
  intro c listed
  simp [plain c listed]

/-- A text in pieces: the piece in front, and every cut with the piece behind it. -/
structure Cutting where
  first : List Char
  rest : List (Char × List Char)

namespace Cutting

/-- The text that is cut. -/
def text (cutting : Cutting) : List Char :=
  cutting.first ++ cutting.rest.flatMap fun part => part.1 :: part.2

def pieces (cutting : Cutting) : List (List Char) :=
  cutting.first :: cutting.rest.map Prod.snd

/-- The characters at which the text is cut. -/
def cuts (cutting : Cutting) : List Char :=
  cutting.rest.map Prod.fst

/-- The cuts are the delimiters of the text, all of them. -/
structure AtDelimiters (cutting : Cutting) : Prop where
  cuts : ∀ c ∈ cutting.cuts, isDelimiter c = true
  pieces : ∀ piece ∈ cutting.pieces, Plain piece

/-- Every piece is changed, and the cuts stay. -/
def map (change : List Char → List Char) (cutting : Cutting) : Cutting where
  first := change cutting.first
  rest := cutting.rest.map fun part => (part.1, change part.2)

/-- One cutting behind another, with a cut between them. -/
def join (before : Cutting) (c : Char) (after : Cutting) : Cutting where
  first := before.first
  rest := before.rest ++ (c, after.first) :: after.rest

variable {cutting : Cutting} (change : List Char → List Char)

/-- Changing a cutting changes its pieces one by one. -/
@[simp] theorem pieces_map : (cutting.map change).pieces = cutting.pieces.map change := by
  simp [pieces, map]

/-- Changing a cutting leaves its delimiters in place. -/
@[simp] theorem cuts_map : (cutting.map change).cuts = cutting.cuts := by
  simp [cuts, map]

/-- Two cuttings may be changed before they are joined at a delimiter or afterwards. -/
theorem map_join (before after : Cutting) (c : Char) :
    (before.join c after).map change = (before.map change).join c (after.map change) := by
  simp [join, map]

/-- The text of a joined cutting is that of both parts with the delimiter in between. -/
theorem text_join (before after : Cutting) (c : Char) :
    (before.join c after).text = before.text ++ c :: after.text := by
  simp [join, text]

end Cutting

/-- A text cut at its delimiters. -/
def cut : List Char → Cutting
  | [] => { first := [], rest := [] }
  | c :: text =>
    if isDelimiter c then { first := [], rest := (c, (cut text).first) :: (cut text).rest }
    else { first := c :: (cut text).first, rest := (cut text).rest }

/-- A delimiter in front ends an empty first piece. -/
theorem cut_cons_of_delimiter {c : Char} (delimiter : isDelimiter c = true) (text : List Char) :
    cut (c :: text) = { first := [], rest := (c, (cut text).first) :: (cut text).rest } := by
  rw [cut, if_pos delimiter]

/-- A plain character in front belongs to the first piece. -/
theorem cut_cons_of_plain {c : Char} (plain : isDelimiter c = false) (text : List Char) :
    cut (c :: text) = { first := c :: (cut text).first, rest := (cut text).rest } := by
  rw [cut, if_neg (by simp [plain])]

/-- Cutting loses nothing: the pieces and delimiters put together are the text. -/
theorem text_cut (text : List Char) : (cut text).text = text := by
  induction text with
  | nil => rfl
  | cons c text ih =>
    cases kind : isDelimiter c with
    | true =>
      rw [cut_cons_of_delimiter kind]
      exact congrArg (c :: ·) ih
    | false =>
      rw [cut_cons_of_plain kind]
      exact congrArg (c :: ·) ih

/-- A text is cut at its delimiters and nowhere else. -/
theorem cut_atDelimiters (text : List Char) : (cut text).AtDelimiters := by
  induction text with
  | nil => exact ⟨by simp [cut, Cutting.cuts], by simp [cut, Cutting.pieces, plain_nil]⟩
  | cons c text ih =>
    obtain ⟨cuts, pieces⟩ := ih
    cases kind : isDelimiter c with
    | true =>
      rw [cut_cons_of_delimiter kind]
      constructor
      · simpa [Cutting.cuts, kind] using cuts
      · simpa [Cutting.pieces, plain_nil] using pieces
    | false =>
      rw [cut_cons_of_plain kind]
      constructor
      · simpa [Cutting.cuts] using cuts
      · simpa [Cutting.pieces, Plain, kind] using pieces

/-- A text without delimiters is one piece. -/
theorem cut_of_plain {text : List Char} (plain : Plain text) :
    cut text = { first := text, rest := [] } := by
  induction text with
  | nil => rfl
  | cons c text ih =>
    obtain ⟨other, plain⟩ := List.forall_mem_cons.1 plain
    rw [cut_cons_of_plain other, ih plain]

/-- At a delimiter a text is cut into the cuttings of its two parts. -/
theorem cut_append_delimiter (before after : List Char) {c : Char}
    (delimiter : isDelimiter c = true) :
    cut (before ++ c :: after) = (cut before).join c (cut after) := by
  induction before with
  | nil => exact cut_cons_of_delimiter delimiter after
  | cons c' before ih =>
    cases kind : isDelimiter c' with
    | true =>
      rw [List.cons_append, cut_cons_of_delimiter kind, cut_cons_of_delimiter kind, ih]
      rfl
    | false =>
      rw [List.cons_append, cut_cons_of_plain kind, cut_cons_of_plain kind, ih]
      rfl

end SubscriptionFields.ShortName
