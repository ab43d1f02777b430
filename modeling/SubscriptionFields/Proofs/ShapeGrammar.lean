import SubscriptionFields.Contract.Shape

/-!
# The types that back a subscription

Which shape a type has is a matter of its wrappers and its leaf. A stream, at once or inside a
handle, is the only form that is looked into (`TypeDescription.Streams`): over a leaf whose values
are shared it is accepted, and over an owned one it is refused under the name of that leaf. Whatever
else a type is made of, at whatever depth, is refused as a whole (`classify_of_not_streams`).

`Classified` lists these rules in terms of wrappers and leaf, and the classifier follows them
(`classified_classify`). When each answer is given, and what it says of the type
(`FollowsGrammar`), is read off the rules.
-/

set_option autoImplicit false

namespace SubscriptionFields

/-! ## Leaves and refusals -/

namespace Leaf

/-- The leaf as the type of elements: the erased object is the named type of objects. -/
def elementType : Leaf → NamedType
  | .object => .erased
  | .named type => type

/-- The text of a leaf. -/
def display (leaf : Leaf) : String := leaf.describe.display

/-- Values of the leaf are held by shared pointers. -/
def Shared (leaf : Leaf) : Prop :=
  leaf = .object ∨ ∃ type, leaf = .named type ∧ type.kind = .reference

/-- Values of the leaf are owned. -/
def Owned (leaf : Leaf) : Prop :=
  ∃ type, leaf = .named type ∧ type.kind = .value

/-- A leaf is shared or owned. -/
theorem shared_or_owned (leaf : Leaf) : leaf.Shared ∨ leaf.Owned := by
  cases leaf with
  | object => exact .inl (.inl rfl)
  | named type =>
    cases kind : type.kind with
    | reference => exact .inl (.inr ⟨type, rfl, kind⟩)
    | value => exact .inr ⟨type, rfl, kind⟩

/-- No leaf is both. -/
theorem not_shared_of_owned {leaf : Leaf} (owned : leaf.Owned) : ¬ leaf.Shared := by
  obtain ⟨type, rfl, kind⟩ := owned
  rintro (object | ⟨other, named, shared⟩)
  · cases object
  · cases named
    rw [kind] at shared
    cases shared

end Leaf

namespace ConfigError

/-- The text of the type that is refused. -/
def declared : ConfigError → String
  | .unrecognizedShape declared => declared
  | .valueTypeElement declared _ => declared

/-- The message of a refusal quotes the refused type in full. -/
theorem message_contains_declared (refusal : ConfigError) :
    ∃ before after, refusal.message = before ++ refusal.declared ++ after := by
  cases refusal with
  | unrecognizedShape declared =>
    unfold message
    exact ⟨_, _, String.append_assoc⟩
  | valueTypeElement declared element =>
    unfold message
    exact ⟨_, _, (congrArg (· ++ _) String.append_assoc).trans String.append_assoc⟩

end ConfigError

namespace TypeDescription

variable {declared : TypeDescription}

/-! ## Streams -/

/-- The type is a stream, at once or inside a handle, of what has no wrapper. -/
def Streams (declared : TypeDescription) : Prop :=
  declared.wrappers = [.stream] ∨ declared.wrappers = [.async, .stream]

/-- A type built around a leaf has the wrappers that it was built with. -/
theorem wrappers_ofLeaf (wrappers : List Wrapper) (leaf : Leaf) :
    (ofLeaf wrappers leaf).wrappers = wrappers := by
  induction wrappers with
  | nil => cases leaf <;> rfl
  | cons wrapper wrappers ih => cases wrapper <;> exact congrArg (_ :: ·) ih

/-- A type built around a leaf has that leaf. -/
theorem leaf_ofLeaf (wrappers : List Wrapper) (leaf : Leaf) :
    (ofLeaf wrappers leaf).leaf = leaf := by
  induction wrappers with
  | nil => cases leaf <;> rfl
  | cons wrapper wrappers ih => cases wrapper <;> exact ih

/-- A type is its wrappers around its leaf. -/
theorem eq_of_wrappers {wrappers : List Wrapper} (wrapped : declared.wrappers = wrappers) :
    declared = ofLeaf wrappers declared.leaf := by
  rw [← wrapped, ofLeaf_wrappers_leaf]

/-- The canonical type is the only one that is a stream of objects inside a handle. -/
theorem canonical_iff :
    (declared == canonical) = true ↔
      declared.wrappers = [.async, .stream] ∧ declared.leaf = .object := by
  constructor
  · intro same
    cases declared with
    | async inner =>
      cases inner with
      | stream element =>
        cases element with
        | object => exact ⟨rfl, rfl⟩
        | _ => cases same
      | _ => cases same
    | _ => cases same
  · rintro ⟨wrapped, erased⟩
    rw [eq_of_wrappers wrapped, erased]
    rfl

/-- The text of a stream is a word around the text of its leaf. -/
theorem display_of_streams (streams : declared.Streams) :
    declared.display = "EventStream<" ++ declared.leaf.display ++ ">" ∨
      declared.display = "AsyncStream<" ++ declared.leaf.display ++ ">" := by
  rcases streams with wrapped | wrapped
  · exact .inl (congrArg display (eq_of_wrappers wrapped))
  · exact .inr (congrArg display (eq_of_wrappers wrapped))

/-! ## The rules -/

/-- The rules of classification. -/
inductive Classified (declared : TypeDescription) : Except ConfigError Shape → Prop
  | direct (wrapped : declared.wrappers = [.async, .stream]) (erased : declared.leaf = .object) :
      Classified declared (.ok .direct)
  | async (wrapped : declared.wrappers = [.async, .stream]) (named : declared.leaf ≠ .object)
      (shared : declared.leaf.Shared) :
      Classified declared (.ok (.async { type := declared.leaf.elementType }))
  | sync (wrapped : declared.wrappers = [.stream]) (shared : declared.leaf.Shared) :
      Classified declared (.ok (.sync { type := declared.leaf.elementType }))
  | owned (streams : declared.Streams) (owned : declared.leaf.Owned) :
      Classified declared (.error (.valueTypeElement declared.display declared.leaf.display))
  | other (other : ¬ declared.Streams) : Classified declared (.error declared.unrecognized)

/-- What is wrapped once more is no element. -/
theorem referenceElement_of_wrapped {element : TypeDescription} (wrapped : element.wrappers ≠ []) :
    referenceElement declared element = .error declared.unrecognized := by
  cases element with
  | object => exact absurd rfl wrapped
  | named type => exact absurd rfl wrapped
  | list inner => rfl
  | stream element => rfl
  | async inner => rfl

/-- What is not a stream, at once or inside a handle, is refused as unrecognized. -/
theorem classify_of_not_streams (other : ¬ declared.Streams) :
    declared.classify = .error declared.unrecognized := by
  unfold classify
  split
  · exact absurd (.inr rfl) other
  · rename_i element _
    have wrapped : element.wrappers ≠ [] := by
      intro bare
      exact other (.inr (by rw [wrappers, wrappers, bare]))
    rw [referenceElement_of_wrapped wrapped]
    rfl
  · rename_i element
    have wrapped : element.wrappers ≠ [] := by
      intro bare
      exact other (.inl (by rw [wrappers, bare]))
    rw [referenceElement_of_wrapped wrapped]
    rfl
  · rfl

/-- A leaf whose values are shared is the element of a stream, an owned one is refused. -/
theorem referenceElement_leaf (declared : TypeDescription) (leaf : Leaf) :
    (leaf.Shared ∧
      referenceElement declared leaf.describe = .ok { type := leaf.elementType }) ∨
    (leaf.Owned ∧ referenceElement declared leaf.describe =
      .error (.valueTypeElement declared.display leaf.display)) := by
  rcases leaf.shared_or_owned with shared | owned
  · refine .inl ⟨shared, ?_⟩
    rcases shared with rfl | ⟨type, rfl, kind⟩
    · rfl
    · simp only [Leaf.describe, referenceElement, kind, Leaf.elementType]
  · refine .inr ⟨owned, ?_⟩
    obtain ⟨type, rfl, kind⟩ := owned
    simp only [Leaf.describe, referenceElement, kind, Leaf.display, TypeDescription.display]

/-- A stream is classified by its leaf. -/
theorem classified_stream (leaf : Leaf) :
    Classified (ofLeaf [.stream] leaf) (ofLeaf [.stream] leaf).classify := by
  have wrapped := wrappers_ofLeaf [.stream] leaf
  have inside := leaf_ofLeaf [.stream] leaf
  have answer : (ofLeaf [.stream] leaf).classify =
      (referenceElement (ofLeaf [.stream] leaf) leaf.describe).map .sync := rfl
  rcases referenceElement_leaf (ofLeaf [.stream] leaf) leaf with ⟨shared, found⟩ | ⟨owned, found⟩
  · rw [answer, found]
    have rule := Classified.sync wrapped (by rwa [inside])
    rwa [inside] at rule
  · rw [answer, found]
    have rule := Classified.owned (.inl wrapped) (by rwa [inside])
    rwa [inside] at rule

/-- A stream inside a handle is classified by its leaf. -/
theorem classified_async_stream (leaf : Leaf) :
    Classified (ofLeaf [.async, .stream] leaf) (ofLeaf [.async, .stream] leaf).classify := by
  have wrapped := wrappers_ofLeaf [.async, .stream] leaf
  have inside := leaf_ofLeaf [.async, .stream] leaf
  cases leaf with
  | object => exact .direct wrapped inside
  | named type =>
    -- the leaf is no erased object, so that the element is looked at
    have answer : (ofLeaf [.async, .stream] (.named type)).classify =
        (referenceElement (ofLeaf [.async, .stream] (.named type)) (.named type)).map .async := rfl
    rcases referenceElement_leaf (ofLeaf [.async, .stream] (.named type)) (.named type) with
      ⟨shared, found⟩ | ⟨owned, found⟩
    · rw [answer, ← Leaf.describe, found]
      have rule := Classified.async wrapped (by simp [inside]) (by rwa [inside])
      rwa [inside] at rule
    · rw [answer, ← Leaf.describe, found]
      have rule := Classified.owned (.inr wrapped) (by rwa [inside])
      rwa [inside] at rule

/-- The classifier follows the rules. -/
theorem classified_classify (declared : TypeDescription) :
    Classified declared declared.classify := by
  by_cases streams : declared.Streams
  · rcases streams with wrapped | wrapped
    · rw [eq_of_wrappers wrapped]
      exact classified_stream declared.leaf
    · rw [eq_of_wrappers wrapped]
      exact classified_async_stream declared.leaf
  · rw [classify_of_not_streams streams]
    exact .other streams

/-- The elements of an accepted type are shared. -/
theorem shared_of_accepted {shape : Shape} (accepted : declared.classify = .ok shape) :
    declared.leaf.Shared := by
  have rule := classified_classify declared
  rw [accepted] at rule
  cases rule with
  | direct wrapped erased => exact .inl erased
  | async wrapped named shared => exact shared
  | sync wrapped shared => exact shared

/-- A stream is refused for nothing but elements that are owned. -/
theorem owned_of_refused {refusal : ConfigError} (streams : declared.Streams)
    (refused : declared.classify = .error refusal) : declared.leaf.Owned := by
  have rule := classified_classify declared
  rw [refused] at rule
  cases rule with
  | owned streams owned => exact owned
  | other other => exact absurd streams other

/-! ## What an answer says -/

/-- When the classifier gives each of its answers to a type, and what a refusal says of it. -/
structure FollowsGrammar (declared : TypeDescription) (answer : Except ConfigError Shape) :
    Prop where
  ok_iff : (∃ shape, answer = .ok shape) ↔ declared.Streams ∧ declared.leaf.Shared
  direct_iff : answer = .ok .direct ↔ (declared == canonical) = true
  async_iff : ∀ element, answer = .ok (.async element) ↔
    declared.wrappers = [.async, .stream] ∧ declared.leaf.Shared ∧
      (declared == canonical) = false ∧ element = { type := declared.leaf.elementType }
  sync_iff : ∀ element, answer = .ok (.sync element) ↔
    declared.wrappers = [.stream] ∧ declared.leaf.Shared ∧
      element = { type := declared.leaf.elementType }
  valueTypeElement_iff : ∀ text element, answer = .error (.valueTypeElement text element) ↔
    declared.Streams ∧ declared.leaf.Owned ∧
      text = declared.display ∧ element = declared.leaf.display
  valueTypeElement_text : ∀ text element, answer = .error (.valueTypeElement text element) →
    text = "EventStream<" ++ element ++ ">" ∨ text = "AsyncStream<" ++ element ++ ">"
  unrecognizedShape_iff : ∀ text, answer = .error (.unrecognizedShape text) ↔
    ¬ declared.Streams ∧ text = declared.display
  message_contains : ∀ refusal, answer = .error refusal →
    ∃ before after, refusal.message = before ++ declared.display ++ after

/-- Every refusal is about the whole type. -/
theorem Classified.declared_of_error {refusal : ConfigError}
    (classified : Classified declared (.error refusal)) : refusal.declared = declared.display := by
  cases classified <;> rfl

/-- The message of a refusal contains the text of the type. -/
theorem Classified.message_contains {answer : Except ConfigError Shape}
    (classified : Classified declared answer) (refusal : ConfigError)
    (refused : answer = .error refusal) :
    ∃ before after, refusal.message = before ++ declared.display ++ after := by
  rw [refused] at classified
  rw [← classified.declared_of_error]
  exact refusal.message_contains_declared

/-- Classification by the rules follows the grammar. -/
theorem Classified.followsGrammar {answer : Except ConfigError Shape}
    (classified : Classified declared answer) : declared.FollowsGrammar answer := by
  have contains := classified.message_contains
  cases classified with
  | direct wrapped erased =>
    have streams : declared.Streams := .inr wrapped
    have shared : declared.leaf.Shared := .inl erased
    have unowned : ¬ declared.leaf.Owned := fun owned => Leaf.not_shared_of_owned owned shared
    have same : (declared == canonical) = true := canonical_iff.2 ⟨wrapped, erased⟩
    constructor
    case message_contains => exact contains
    all_goals simp [wrapped, streams, shared, unowned, same]
  | async wrapped named shared =>
    have streams : declared.Streams := .inr wrapped
    have unowned : ¬ declared.leaf.Owned := fun owned => Leaf.not_shared_of_owned owned shared
    have different : (declared == canonical) = false :=
      Bool.eq_false_iff.2 fun same => named (canonical_iff.1 same).2
    constructor
    case message_contains => exact contains
    all_goals simp [wrapped, streams, shared, unowned, different, eq_comm]
  | sync wrapped shared =>
    have streams : declared.Streams := .inl wrapped
    have unowned : ¬ declared.leaf.Owned := fun owned => Leaf.not_shared_of_owned owned shared
    have different : (declared == canonical) = false :=
      Bool.eq_false_iff.2 fun same => by simpa [wrapped] using (canonical_iff.1 same).1
    constructor
    case message_contains => exact contains
    all_goals simp [wrapped, streams, shared, unowned, different, eq_comm]
  | owned streams owned =>
    have unshared : ¬ declared.leaf.Shared := Leaf.not_shared_of_owned owned
    have different : (declared == canonical) = false :=
      Bool.eq_false_iff.2 fun same => unshared (.inl (canonical_iff.1 same).2)
    have text := display_of_streams streams
    constructor
    case message_contains => exact contains
    all_goals simp [streams, owned, unshared, different, text, eq_comm]
  | other other =>
    have direct : declared.wrappers ≠ [.stream] := fun wrapped => other (.inl wrapped)
    have awaited : declared.wrappers ≠ [.async, .stream] := fun wrapped => other (.inr wrapped)
    have different : (declared == canonical) = false :=
      Bool.eq_false_iff.2 fun same => awaited (canonical_iff.1 same).1
    constructor
    case message_contains => exact contains
    all_goals simp [other, direct, awaited, different, unrecognized, eq_comm]

/-- The classifier accepts the streams of shared elements, at once or inside a handle, and refuses
every other type with the reason that its wrappers and its leaf give. -/
theorem classify_follows_grammar (declared : TypeDescription) :
    declared.FollowsGrammar declared.classify :=
  (classified_classify declared).followsGrammar

end TypeDescription

end SubscriptionFields
