import SubscriptionFields.Contract.ReturnType
import SubscriptionFields.Proofs.ShapeGrammar

/-!
# What the text of a type tells about the type

The text of a type is the text of its leaf inside words that stand for the wrappers. A word may
stand for two wrappers, as a handle to a stream is written as one; still the words tell the wrappers
(`wrappers_enclosures`). From the text the words are read off one after the other, since none of
them begins with another, until what is left begins with none (`enclose_inj`). The leaves of
declared return types are of this kind, although a name may contain any character: a shared type is
written with a pointer around its name, and an owned one is one of a few scalars
(`Leaf.Declarable.bare`).

Hence two declared types with the same text have the same wrappers and leaves with the same text
(`wrappers_and_leaf_of_text`). The text of a leaf also tells whether its values are shared
(`Leaf.Declarable.shared_iff`), and this is all that the classifier needs beyond texts
(`refusedAlike_of_texts`).
-/

set_option autoImplicit false

namespace SubscriptionFields

/-! ## Words around a text -/

/-- What is written around the text of what a wrapper holds. -/
inductive Enclosure where
  | list
  | stream
  | asyncStream
  | async
  deriving DecidableEq

namespace Enclosure

/-- The word in front, up to the bracket that opens. -/
def word : Enclosure → List Char
  | .list => ['V', 'e', 'c', '<']
  | .stream => ['E', 'v', 'e', 'n', 't', 'S', 't', 'r', 'e', 'a', 'm', '<']
  | .asyncStream => ['A', 's', 'y', 'n', 'c', 'S', 't', 'r', 'e', 'a', 'm', '<']
  | .async => ['B', 'o', 'x', 'F', 'u', 't', 'u', 'r', 'e', '<']

/-- The wrappers for which a word stands. -/
def wrappers : Enclosure → List Wrapper
  | .list => [.list]
  | .stream => [.stream]
  | .asyncStream => [.async, .stream]
  | .async => [.async]

/-- No word begins with another. -/
theorem word_append_inj {one other : Enclosure} {behind behind' : List Char}
    (same : one.word ++ behind = other.word ++ behind') : one = other ∧ behind = behind' := by
  cases one <;> cases other <;> simp_all [word]

end Enclosure

/-- The words that are written for wrappers, outermost first. -/
def enclosures : List Wrapper → List Enclosure
  | [] => []
  | .list :: wrappers => .list :: enclosures wrappers
  | .stream :: wrappers => .stream :: enclosures wrappers
  | .async :: .stream :: wrappers => .asyncStream :: enclosures wrappers
  | .async :: wrappers => .async :: enclosures wrappers

/-- The words tell the wrappers. -/
theorem wrappers_enclosures (wrappers : List Wrapper) :
    (enclosures wrappers).flatMap Enclosure.wrappers = wrappers := by
  fun_induction enclosures wrappers with
  | case1 => rfl
  | case2 wrappers ih => exact congrArg (Wrapper.list :: ·) ih
  | case3 wrappers ih => exact congrArg (Wrapper.stream :: ·) ih
  | case4 wrappers ih => exact congrArg (Wrapper.async :: .stream :: ·) ih
  | case5 wrappers _ ih => exact congrArg (Wrapper.async :: ·) ih

/-- A text inside the words, every one of which is closed behind it. -/
def enclose (words : List Enclosure) (inner : List Char) : List Char :=
  words.foldr (fun enclosure text => enclosure.word ++ (text ++ ['>'])) inner

/-- The first word encloses all that the others enclose. -/
theorem enclose_cons (enclosure : Enclosure) (words : List Enclosure) (inner : List Char) :
    enclose (enclosure :: words) inner = enclosure.word ++ (enclose words inner ++ ['>']) := rfl

/-- What stands inside the same enclosures can be read off. -/
theorem enclose_cancel {words : List Enclosure} {inner inner' : List Char}
    (same : enclose words inner = enclose words inner') : inner = inner' := by
  induction words with
  | nil => exact same
  | cons enclosure words ih =>
    rw [enclose_cons, enclose_cons] at same
    exact ih (List.append_cancel_right (List.append_cancel_left same))

/-- The text begins with none of the words. -/
def Bare (text : List Char) : Prop :=
  ∀ (enclosure : Enclosure) (behind : List Char), text ≠ enclosure.word ++ behind

/-- The words can be read off as long as the text inside begins with none. -/
theorem enclose_inj {words words' : List Enclosure} {inner inner' : List Char} (bare : Bare inner)
    (bare' : Bare inner') (same : enclose words inner = enclose words' inner') :
    words = words' ∧ inner = inner' := by
  induction words generalizing words' with
  | nil =>
    cases words' with
    | nil => exact ⟨rfl, same⟩
    | cons enclosure words' => exact absurd same (bare enclosure _)
  | cons enclosure words ih =>
    cases words' with
    | nil => exact absurd same.symm (bare' enclosure _)
    | cons enclosure' words' =>
      obtain ⟨rfl, inside⟩ := Enclosure.word_append_inj same
      obtain ⟨rfl, rfl⟩ := ih (List.append_cancel_right inside)
      exact ⟨rfl, rfl⟩

namespace TypeDescription

/-- The text of a type is the text of its leaf inside the words for its wrappers. -/
theorem toList_display (type : TypeDescription) :
    type.display.toList = enclose (enclosures type.wrappers) type.leaf.display.toList := by
  fun_induction display type with
  | case1 => rfl
  | case2 type => rfl
  | case3 inner ih =>
    rw [wrappers, enclosures, enclose_cons, leaf, ← ih]
    simp [Enclosure.word]
  | case4 element ih =>
    rw [wrappers, enclosures, enclose_cons, leaf, ← ih]
    simp [Enclosure.word]
  | case5 element ih =>
    rw [wrappers, wrappers, enclosures, enclose_cons, leaf, leaf, ← ih]
    simp [Enclosure.word]
  | case6 inner other ih =>
    have apart : enclosures (.async :: inner.wrappers) = .async :: enclosures inner.wrappers := by
      cases inner with
      | stream element => exact absurd rfl (other element)
      | _ => rfl
    rw [wrappers, apart, enclose_cons, leaf, ← ih]
    simp [Enclosure.word]

/-- Under the same wrappers the text of a type is that of its leaf. -/
theorem display_eq_iff_of_wrappers {left right : TypeDescription}
    (wrapped : left.wrappers = right.wrappers) :
    left.display = right.display ↔ left.leaf.display = right.leaf.display := by
  rw [← String.toList_inj, ← String.toList_inj, toList_display, toList_display, wrapped]
  constructor
  · exact enclose_cancel
  · intro same
    rw [same]

end TypeDescription

/-! ## Texts of named types -/

namespace NamedType

variable {type : NamedType}

/-- Objects have a text of their own. -/
theorem display_of_object (object : type.name = objectTypeName) : type.display = "SourceValue" := by
  rw [display, if_pos object]

/-- Any other reference is written as an optional pointer to its shortened name. -/
theorem display_of_reference (other : type.name ≠ objectTypeName) (kind : type.kind = .reference) :
    type.display = "Option<Arc<" ++ ShortName.shorten type.name ++ ">>" := by
  rw [display, if_neg other, kind]

/-- Any other value is written as its shortened name. -/
theorem display_of_value (other : type.name ≠ objectTypeName) (kind : type.kind = .value) :
    type.display = ShortName.shorten type.name := by
  rw [display, if_neg other, kind]

end NamedType

/-! ## Leaves of declared types -/

namespace Leaf

/-- The leaves that return types are declared with. -/
inductive Declarable : Leaf → Prop
  | object : Declarable .object
  | shared (payload : String) : Declarable (.named { name := payload, kind := .reference })
  | scalar (type : ScalarType) : Declarable (.named { name := type.name, kind := .value })

/-- The leaf of a return type can be declared. -/
theorem declarable_of_returnType (type : ReturnType) : type.describe.leaf.Declarable := by
  induction type with
  | object => exact .object
  | shared payload => exact .shared payload
  | scalar type => exact .scalar type
  | list inner ih => exact ih
  | stream element ih => exact ih
  | async inner ih => exact ih

/-- How a leaf of a declared type is written: as the erased object or with a pointer around it if it
is shared, and without any bracket if it is owned. -/
theorem Declarable.text {leaf : Leaf} (declarable : leaf.Declarable) :
    (leaf.Shared ∧ (leaf.display = "SourceValue" ∨
      ∃ behind, leaf.display = "Option<Arc<" ++ behind)) ∨
    (leaf.Owned ∧ '<' ∉ leaf.display.toList ∧ leaf.display ≠ "SourceValue") := by
  cases declarable with
  | object => exact .inl ⟨.inl rfl, .inl rfl⟩
  | shared payload =>
    refine .inl ⟨.inr ⟨_, rfl, rfl⟩, ?_⟩
    by_cases object : payload = objectTypeName
    · exact .inl (NamedType.display_of_object object)
    · refine .inr ⟨ShortName.shorten payload ++ ">>", ?_⟩
      rw [← String.append_assoc]
      exact NamedType.display_of_reference object rfl
  | scalar type =>
    refine .inr ⟨⟨_, rfl, rfl⟩, ?_⟩
    cases type <;> decide

/-- Whatever a leaf of a declared type is called, its text begins with no word for a wrapper. -/
theorem Declarable.bare {leaf : Leaf} (declarable : leaf.Declarable) :
    Bare leaf.display.toList := by
  intro enclosure behind begins
  rcases declarable.text with ⟨-, erased | ⟨rest, pointer⟩⟩ | ⟨-, unbracketed, -⟩
  · rw [erased] at begins
    cases enclosure <;> simp [Enclosure.word] at begins
  · rw [pointer, String.toList_append] at begins
    cases enclosure <;> simp [Enclosure.word] at begins
  · rw [begins] at unbracketed
    cases enclosure <;> simp [Enclosure.word] at unbracketed

/-- The text of a leaf of a declared type tells whether its values are shared. -/
theorem Declarable.shared_iff {leaf : Leaf} (declarable : leaf.Declarable) :
    leaf.Shared ↔ leaf.display = "SourceValue" ∨ '<' ∈ leaf.display.toList := by
  rcases declarable.text with ⟨shared, erased | ⟨rest, pointer⟩⟩ | ⟨owned, unbracketed, named⟩
  · exact iff_of_true shared (.inl erased)
  · refine iff_of_true shared (.inr ?_)
    rw [pointer]
    simp
  · exact iff_of_false (not_shared_of_owned owned) (by simp [unbracketed, named])

end Leaf

/-! ## Types with the same text -/

namespace TypeDescription

/-- Both types are accepted, or both are refused for the same reason. -/
def RefusedAlike (left right : TypeDescription) : Prop :=
  (∃ shape shape', left.classify = .ok shape ∧ right.classify = .ok shape') ∨
    ∃ refusal, left.classify = .error refusal ∧ right.classify = .error refusal

/-- The classifier tells apart wrappers, texts, and whether a leaf is shared. -/
theorem refusedAlike_of_texts {left right : TypeDescription}
    (wrapped : left.wrappers = right.wrappers) (held : left.leaf.Shared ↔ right.leaf.Shared)
    (text : left.leaf.display = right.leaf.display) : left.RefusedAlike right := by
  have whole : left.display = right.display := (display_eq_iff_of_wrappers wrapped).2 text
  have streams : left.Streams ↔ right.Streams := by rw [Streams, Streams, wrapped]
  have answer := (classified_classify left).followsGrammar
  have answer' := (classified_classify right).followsGrammar
  by_cases inside : right.Streams
  · rcases right.leaf.shared_or_owned with shared | owned
    · obtain ⟨shape, accepted⟩ := answer.ok_iff.2 ⟨streams.2 inside, held.2 shared⟩
      obtain ⟨shape', accepted'⟩ := answer'.ok_iff.2 ⟨inside, shared⟩
      exact .inl ⟨shape, shape', accepted, accepted'⟩
    · have owned' : left.leaf.Owned := by
        refine left.leaf.shared_or_owned.resolve_left ?_
        intro shared
        exact Leaf.not_shared_of_owned owned (held.1 shared)
      refine .inr ⟨.valueTypeElement right.display right.leaf.display, ?_, ?_⟩
      · exact (answer.valueTypeElement_iff _ _).2
          ⟨streams.2 inside, owned', whole.symm, text.symm⟩
      · exact (answer'.valueTypeElement_iff _ _).2 ⟨inside, owned, rfl, rfl⟩
  · refine .inr ⟨.unrecognizedShape right.display, ?_, ?_⟩
    · exact (answer.unrecognizedShape_iff _).2 ⟨fun other => inside (streams.1 other), whole.symm⟩
    · exact (answer'.unrecognizedShape_iff _).2 ⟨inside, rfl⟩

end TypeDescription

namespace ReturnType

/-- The text of a declared type tells its wrappers and the text of its leaf. -/
theorem wrappers_and_leaf_of_text {left right : ReturnType}
    (same : left.describe.display = right.describe.display) :
    left.describe.wrappers = right.describe.wrappers ∧
      left.describe.leaf.display = right.describe.leaf.display := by
  have texts : left.describe.display.toList = right.describe.display.toList := by rw [same]
  rw [TypeDescription.toList_display, TypeDescription.toList_display] at texts
  obtain ⟨words, inside⟩ := enclose_inj (Leaf.declarable_of_returnType left).bare
    (Leaf.declarable_of_returnType right).bare texts
  refine ⟨?_, String.toList_inj.1 inside⟩
  rw [← wrappers_enclosures left.describe.wrappers, words, wrappers_enclosures]

/-- Types that are written alike are made alike: declared types with the same text have the same
wrappers in the same order, and leaves with the same text, and either both can back a subscription
or both are refused for the same reason. -/
theorem text_never_misstates_structure (left right : ReturnType)
    (same : left.describe.display = right.describe.display) :
    left.describe.wrappers = right.describe.wrappers ∧
      left.describe.leaf.display = right.describe.leaf.display ∧
      left.describe.RefusedAlike right.describe := by
  obtain ⟨wrapped, inside⟩ := wrappers_and_leaf_of_text same
  refine ⟨wrapped, inside, TypeDescription.refusedAlike_of_texts wrapped ?_ inside⟩
  rw [(Leaf.declarable_of_returnType left).shared_iff,
    (Leaf.declarable_of_returnType right).shared_iff, inside]

/-- A handle to a stream is written alike whether the objects are erased or held by pointers,
although only the first is canonical. -/
theorem text_never_misstates_structure_objects :
    (async (stream object)).describe.display =
        (async (stream (shared objectTypeName))).describe.display ∧
      (async (stream object)).describe.wrappers =
        (async (stream (shared objectTypeName))).describe.wrappers ∧
      (async (stream object)).describe.leaf.display =
        (async (stream (shared objectTypeName))).describe.leaf.display ∧
      (async (stream object)).describe.RefusedAlike
        (async (stream (shared objectTypeName))).describe :=
  ⟨by decide, text_never_misstates_structure _ _ (by decide)⟩

end ReturnType

end SubscriptionFields
