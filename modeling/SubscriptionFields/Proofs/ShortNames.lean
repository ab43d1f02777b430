import Mathlib.Data.List.Forall2
import SubscriptionFields.Proofs.NamePieces

/-!
# Short names are what is left of the pieces of a name

The scan that shortens a name moves a byte position along the name and cuts at it. What it writes is
described without positions: the name is cut at its delimiters, every piece between two of them
loses its path, and the delimiters stay where they are (`shortForm`). The scan and this description
give the same text, so no cut of the scan fails (`shorten?_eq_shortForm`). The proof follows the
scan: what has been written, and the short form of what has not been closed yet, make up the short
form of the whole name (`Scan.At`); one character keeps this (`Scan.At.step`), and so do all of them
(`Scan.At.run`).

A text is a piece, or a piece in front of a delimiter and another text (`induction_on_pieces`). The
laws of the short form are proved along this, and come down to laws of a single piece.
-/

set_option autoImplicit false

namespace SubscriptionFields

namespace Text

/-- The bytes of two texts add up. -/
theorem width_append (text behind : List Char) :
    width (text ++ behind) = width text + width behind := by
  induction text with
  | nil => simp [width]
  | cons c text ih =>
    simp only [List.cons_append, width, ih]
    omega

/-- A text that is not empty is at least one byte wide, and without the bytes of its first character
it is as wide as the rest. -/
theorem exists_width_cons (c : Char) (text : List Char) :
    ∃ n, width (c :: text) = n + 1 ∧ c.utf8Size ≤ n + 1 ∧ n + 1 - c.utf8Size = width text := by
  have positive := c.utf8Size_pos
  refine ⟨c.utf8Size - 1 + width text, ?_, ?_, ?_⟩
  · simp only [width]
    omega
  · omega
  · omega

end Text

namespace ShortName

open Text (width width_append)

/-! ## Byte positions -/

/-- Dropping the bytes of the text in front leaves what stands behind it. -/
theorem dropBytes?_width (text behind : List Char) :
    dropBytes? (width text) (text ++ behind) = some behind := by
  induction text with
  | nil => rw [width, List.nil_append, dropBytes?]
  | cons c text ih =>
    obtain ⟨n, size, inside, left⟩ := Text.exists_width_cons c text
    rw [size, List.cons_append, dropBytes?, if_pos inside, left, ih]

/-- Taking the bytes of the text in front takes that text. -/
theorem takeBytes?_width (text behind : List Char) :
    takeBytes? (width text) (text ++ behind) = some text := by
  induction text with
  | nil => rw [width, takeBytes?]
  | cons c text ih =>
    obtain ⟨n, size, inside, left⟩ := Text.exists_width_cons c text
    rw [size, List.cons_append, takeBytes?, if_pos inside, left, ih, Option.map_some]

/-- Between the positions behind two parts of a text stands what is between these parts. -/
theorem slice?_width (before piece behind : List Char) :
    slice? (before ++ piece ++ behind) (width before) (width (before ++ piece)) = some piece := by
  have ordered : width before ≤ width (before ++ piece) := by
    rw [width_append]
    omega
  have size : width (before ++ piece) - width before = width piece := by
    rw [width_append]
    omega
  rw [slice?, if_pos ordered, size, List.append_assoc, dropBytes?_width, Option.bind_some,
    takeBytes?_width]

/-! ## The short form of a text -/

/-- The text with every piece between two delimiters cut to its last segment. -/
def shortForm (text : List Char) : List Char :=
  ((cut text).map lastSegment).text

/-- A text without delimiters is shortened to its last segment. -/
theorem shortForm_of_plain {text : List Char} (plain : Plain text) :
    shortForm text = lastSegment text := by
  simp [shortForm, cut_of_plain plain, Cutting.map, Cutting.text]

/-- Shortening goes on by itself on both sides of a delimiter. -/
theorem shortForm_append_delimiter (before after : List Char) {c : Char}
    (delimiter : isDelimiter c = true) :
    shortForm (before ++ c :: after) = shortForm before ++ c :: shortForm after := by
  unfold shortForm
  rw [cut_append_delimiter before after delimiter, Cutting.map_join, Cutting.text_join]

/-! ## The scan -/

namespace Scan

/-- Where a scan stands: in front of it are the closed pieces and the open one, which has no
delimiter. What is written and what the rest of the name will become are the short form. -/
structure At (scan : Scan) (full closed opened left : List Char) : Prop where
  whole : full = closed ++ opened ++ left
  start : scan.segmentStart = width closed
  plain : Plain opened
  written : scan.written ++ shortForm (opened ++ left) = shortForm full

variable {scan : Scan} {full closed opened left : List Char} {c : Char}

/-- The open piece can be cut out of the name. -/
theorem At.slice?_opened (place : scan.At full closed opened left) :
    slice? full scan.segmentStart (width (closed ++ opened)) = some opened := by
  rw [place.whole, place.start]
  exact slice?_width closed opened left

/-- Behind a delimiter a new piece is open, and the last segment of the closed one is written. -/
theorem At.close (place : scan.At full closed opened (c :: left))
    (delimiter : isDelimiter c = true) :
    Scan.At
      { segmentStart := width (closed ++ opened) + c.utf8Size
        written := scan.written ++ lastSegment opened ++ [c] }
      full (closed ++ opened ++ [c]) [] left where
  whole := by
    rw [place.whole]
    simp
  start := by
    rw [width_append (closed ++ opened)]
    rfl
  plain := plain_nil
  written := by
    have written := place.written
    rw [shortForm_append_delimiter opened left delimiter, shortForm_of_plain place.plain] at written
    rw [← written]
    simp

/-- Any other character is added to the open piece. -/
theorem At.extend (place : scan.At full closed opened (c :: left))
    (other : isDelimiter c = false) : scan.At full closed (opened ++ [c]) left where
  whole := by
    rw [place.whole]
    simp
  start := place.start
  plain := place.plain.concat other
  written := by
    rw [← place.written]
    simp

/-- One character of the scan. -/
theorem At.step (place : scan.At full closed opened (c :: left)) :
    ∃ next closed' opened', Scan.step full scan (width (closed ++ opened), c) = some next ∧
      next.At full closed' opened' left ∧
      width (closed' ++ opened') = width (closed ++ opened) + c.utf8Size := by
  cases kind : isDelimiter c with
  | true =>
    refine ⟨_, _, _, ?_, place.close kind, ?_⟩
    · simp only [Scan.step, kind, if_true, place.slice?_opened, Option.map_some]
    · rw [List.append_nil, width_append (closed ++ opened)]
      rfl
  | false =>
    refine ⟨scan, _, _, ?_, place.extend kind, ?_⟩
    · simp only [Scan.step, kind, Bool.false_eq_true, if_false]
    · rw [← List.append_assoc, width_append (closed ++ opened)]
      rfl

/-- The scan comes to the end of the name. -/
theorem At.run (place : scan.At full closed opened left) :
    ∃ last closed' opened',
      (positions (width (closed ++ opened)) left).foldlM (Scan.step full) scan = some last ∧
      last.At full closed' opened' [] := by
  induction left generalizing scan closed opened with
  | nil => exact ⟨scan, closed, opened, rfl, place⟩
  | cons c left ih =>
    obtain ⟨next, closed', opened', stepped, moved, further⟩ := place.step
    obtain ⟨last, closed'', opened'', ran, done⟩ := ih moved
    refine ⟨last, closed'', opened'', ?_, done⟩
    rw [positions, List.foldlM_cons, stepped, ← further]
    exact ran

end Scan

/-- The scan never cuts through a character or out of the name, and it writes the short form. -/
theorem shorten?_eq_shortForm (full : List Char) : shorten? full = some (shortForm full) := by
  have start : Scan.At { segmentStart := 0, written := [] } full [] [] full :=
    ⟨rfl, rfl, plain_nil, rfl⟩
  obtain ⟨last, closed, opened, ran, done⟩ := start.run
  have piece := done.slice?_opened
  have whole := done.whole
  have written := done.written
  rw [List.append_nil] at whole written
  rw [← whole] at piece
  rw [shortForm_of_plain done.plain] at written
  unfold shorten?
  rw [show positions 0 full = positions (width ([] ++ [])) full from rfl, ran]
  simp only [bind, Option.bind_some, piece, pure, written]

/-- The scan over the bytes of a name gives its short form. -/
theorem toList_shorten (name : String) : (shorten name).toList = shortForm name.toList := by
  simp [shorten, shorten?_eq_shortForm]

/-! ## Laws of the short form -/

/-- What holds of a text without delimiters, and of a piece, a delimiter and a text of which it
holds already, holds of every text. -/
theorem induction_on_pieces {holds : List Char → Prop}
    (piece : ∀ text, Plain text → holds text)
    (delimited : ∀ before c after, Plain before → isDelimiter c = true → holds after →
      holds (before ++ c :: after))
    (text : List Char) : holds text := by
  -- the piece that is open when the induction comes to `text` goes along
  have open_piece : ∀ opened, Plain opened → holds (opened ++ text) := by
    induction text with
    | nil =>
      intro opened plain
      rw [List.append_nil]
      exact piece opened plain
    | cons c text ih =>
      intro opened plain
      cases kind : isDelimiter c with
      | true => exact delimited opened c text plain kind (ih [] plain_nil)
      | false =>
        have longer := ih (opened ++ [c]) (plain.concat kind)
        rwa [List.append_assoc] at longer
  exact open_piece [] plain_nil

/-- A first piece is shortened by itself, and what is behind its delimiter as well. -/
theorem shortForm_piece_delimiter {piece : List Char} (after : List Char) {c : Char}
    (plain : Plain piece) (delimiter : isDelimiter c = true) :
    shortForm (piece ++ c :: after) = lastSegment piece ++ c :: shortForm after := by
  rw [shortForm_append_delimiter piece after delimiter, shortForm_of_plain plain]

/-- The delimiters stay, in their order. -/
theorem filter_shortForm (text : List Char) :
    (shortForm text).filter isDelimiter = text.filter isDelimiter := by
  induction text using induction_on_pieces with
  | piece text plain =>
    rw [shortForm_of_plain plain, plain.filter_eq_nil, plain.lastSegment.filter_eq_nil]
  | delimited before c after plain delimiter ih =>
    rw [shortForm_piece_delimiter after plain delimiter]
    simp only [List.filter_append, List.filter_cons, delimiter, if_true, ih,
      plain.filter_eq_nil, plain.lastSegment.filter_eq_nil]

/-- A "::" is not made of two characters from both sides of a delimiter. -/
theorem pathMark_infix_append_delimiter {before after : List Char} {c : Char}
    (delimiter : isDelimiter c = true) (marked : pathMark <:+: before ++ c :: after) :
    pathMark <:+: before ∨ pathMark <:+: after := by
  have other : c ≠ ':' := by
    rintro rfl
    exact absurd delimiter (by decide)
  induction before with
  | nil =>
    rw [List.nil_append, pathMark_infix_cons_iff] at marked
    exact .inr (marked.resolve_left fun both => other both.1)
  | cons c' before ih =>
    rw [List.cons_append, pathMark_infix_cons_iff] at marked
    rw [pathMark_infix_cons_iff]
    rcases marked with ⟨first, second⟩ | marked
    · refine .inl (.inl ⟨first, ?_⟩)
      cases before with
      | nil => exact absurd (List.cons_prefix_cons.1 second).1.symm other
      | cons c'' before =>
        exact List.cons_prefix_cons.2 ⟨(List.cons_prefix_cons.1 second).1, List.nil_prefix⟩
    · exact (ih marked).imp .inr id

/-- No path is left. -/
theorem shortForm_unmarked (text : List Char) : ¬ pathMark <:+: shortForm text := by
  induction text using induction_on_pieces with
  | piece text plain =>
    rw [shortForm_of_plain plain]
    exact lastSegment_unmarked text
  | delimited before c after plain delimiter ih =>
    rw [shortForm_piece_delimiter after plain delimiter]
    intro marked
    rcases pathMark_infix_append_delimiter delimiter marked with inside | inside
    · exact lastSegment_unmarked before inside
    · exact ih inside

/-- A short form is short already. -/
theorem shortForm_shortForm (text : List Char) : shortForm (shortForm text) = shortForm text := by
  induction text using induction_on_pieces with
  | piece text plain =>
    rw [shortForm_of_plain plain, shortForm_of_plain plain.lastSegment,
      lastSegment_of_unmarked (lastSegment_unmarked text)]
  | delimited before c after plain delimiter ih =>
    rw [shortForm_piece_delimiter after plain delimiter,
      shortForm_piece_delimiter _ plain.lastSegment delimiter, ih,
      lastSegment_of_unmarked (lastSegment_unmarked before)]

/-- Shortening a name succeeds, whatever characters stand in it: the name is cut at its delimiters,
which stay, and of every piece its last segment stays. The short name has no "::", has the
delimiters of the name, and is not shortened further; on both sides of a delimiter a name is
shortened by itself. -/
theorem shortening_drops_paths (name : String) :
    (∃ cutting short : Cutting, cutting.text = name.toList ∧ cutting.AtDelimiters ∧
      short.cuts = cutting.cuts ∧ List.Forall₂ IsLastSegment cutting.pieces short.pieces ∧
      shorten? name.toList = some short.text ∧ shorten name = String.ofList short.text) ∧
    ¬ pathMark <:+: (shorten name).toList ∧
    (shorten name).toList.filter isDelimiter = name.toList.filter isDelimiter ∧
    shorten (shorten name) = shorten name ∧
    ∀ c ∈ delimiters, ∀ behind : String,
      shorten (name ++ String.singleton c ++ behind) =
        shorten name ++ String.singleton c ++ shorten behind := by
  refine ⟨?_, ?_, ?_, ?_, ?_⟩
  · refine ⟨cut name.toList, (cut name.toList).map lastSegment, text_cut _, cut_atDelimiters _,
      Cutting.cuts_map _, ?_, shorten?_eq_shortForm _, ?_⟩
    · rw [Cutting.pieces_map, List.forall₂_map_right_iff]
      exact List.forall₂_same.2 fun piece _ => isLastSegment_lastSegment piece
    · rw [← String.toList_inj, toList_shorten, String.toList_ofList]
      rfl
  · rw [toList_shorten]
    exact shortForm_unmarked _
  · rw [toList_shorten]
    exact filter_shortForm _
  · rw [← String.toList_inj]
    simp only [toList_shorten, shortForm_shortForm]
  · intro c listed behind
    have delimiter : isDelimiter c = true := List.contains_iff_mem.2 listed
    rw [← String.toList_inj]
    simp only [toList_shorten, String.toList_append, String.toList_singleton, List.append_assoc,
      List.singleton_append]
    exact shortForm_append_delimiter _ _ delimiter

example : shorten "alloc::vec::Vec<(shop:::Order, [é::ü; 2])>" = "Vec<(Order, [ü; 2])>" := by
  decide

end ShortName

end SubscriptionFields
