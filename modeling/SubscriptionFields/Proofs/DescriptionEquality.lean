import SubscriptionFields.Proofs.TypeTexts

/-!
# Equal types may be held differently

Types are compared by their wrappers and by the names of their leaves, and how the values of a leaf
are held does not count (`TypeDescription.beq_iff`). Texts and the classifier do look at it, so that
equal types need not be written alike or classified alike: a stream of shared texts and a stream of
owned texts are equal, but only the first can back a subscription.

This is the only way in which equal types come apart. Equal types whose leaves are held alike are
one type (`eq_of_beq_of_kind`). If they are held differently, their texts are the same only for the
type of objects, which is written alike either way (`display_eq_iff_of_beq`); and the classifier
agrees on them only if it has nothing to say about the leaf and the texts are the same
(`classifiedAlike_iff_of_beq`).
-/

set_option autoImplicit false

namespace SubscriptionFields

/-! ## Names and kinds -/

namespace NamedType

variable {type other : NamedType}

/-- Named types are compared by their names alone. -/
theorem beq_iff : (type == other) = true ↔ type.name = other.name := by
  show (type.name == other.name) = true ↔ type.name = other.name
  exact beq_iff_eq

/-- A pointer is written around the name of a shared type, which makes its text longer. -/
theorem display_ne_of_kinds (named : type.name = other.name) (ordinary : type.name ≠ objectTypeName)
    (shared : type.kind = .reference) (owned : other.kind = .value) :
    type.display ≠ other.display := by
  rw [display_of_reference ordinary shared, display_of_value (named ▸ ordinary) owned, named]
  intro same
  have lengths := congrArg String.length same
  simp only [String.length_append] at lengths
  have pointer : "Option<Arc<".length = 11 := by decide
  omega

/-- The texts of two types of one name tell how they are held, unless it is the name of objects. -/
theorem display_eq_iff (named : type.name = other.name) :
    type.display = other.display ↔ type.kind = other.kind ∨ type.name = objectTypeName := by
  by_cases object : type.name = objectTypeName
  · rw [display_of_object object, display_of_object (named ▸ object)]
    simp [object]
  · cases kind : type.kind with
    | reference =>
      cases kind' : other.kind with
      | reference =>
        rw [display_of_reference object kind, display_of_reference (named ▸ object) kind', named]
        simp
      | value => simpa [object] using display_ne_of_kinds named object kind kind'
    | value =>
      cases kind' : other.kind with
      | reference =>
        simpa [object] using (display_ne_of_kinds named.symm (named ▸ object) kind' kind).symm
      | value =>
        rw [display_of_value object kind, display_of_value (named ▸ object) kind', named]
        simp

end NamedType

namespace Leaf

variable {leaf other : Leaf}

/-- How the values of a leaf are held; those of the erased object are shared. -/
def kind (leaf : Leaf) : TypeKind := leaf.elementType.kind

/-- A leaf is shared exactly if it is a reference. -/
theorem shared_iff_kind : leaf.Shared ↔ leaf.kind = .reference := by
  cases leaf with
  | object => exact iff_of_true (.inl rfl) rfl
  | named type => simp [Shared, kind, elementType]

/-- A leaf is owned exactly if it is a value. -/
theorem owned_iff_kind : leaf.Owned ↔ leaf.kind = .value := by
  cases leaf with
  | object => simp [Owned, kind, elementType, NamedType.erased]
  | named type => simp [Owned, kind, elementType]

/-- Leaves are equal if both are erased or both are named and have the same name. -/
theorem beq_iff : (leaf == other) = true ↔
    (leaf = .object ∧ other = .object) ∨
      ∃ type type', leaf = .named type ∧ other = .named type' ∧ type.name = type'.name := by
  cases leaf with
  | object =>
    cases other with
    | object => exact iff_of_true rfl (.inl ⟨rfl, rfl⟩)
    | named type' => exact iff_of_false Bool.false_ne_true (by simp)
  | named type =>
    cases other with
    | object => exact iff_of_false Bool.false_ne_true (by simp)
    | named type' =>
      rw [show (Leaf.named type == .named type') = (type == type') from rfl, NamedType.beq_iff]
      simp

/-- Equal leaves of the same kind are the same. -/
theorem eq_of_beq_of_kind (same : (leaf == other) = true) (held : leaf.kind = other.kind) :
    leaf = other := by
  rcases beq_iff.1 same with ⟨rfl, rfl⟩ | ⟨⟨name, kind⟩, ⟨name', kind'⟩, rfl, rfl, named⟩
  · rfl
  · cases named
    cases held
    rfl

/-- Equal leaves have one text exactly if they are of one kind or are objects. -/
theorem display_eq_iff_of_beq (same : (leaf == other) = true) :
    leaf.display = other.display ↔
      leaf.kind = other.kind ∨ leaf.elementType.name = objectTypeName := by
  rcases beq_iff.1 same with ⟨rfl, rfl⟩ | ⟨type, type', rfl, rfl, named⟩
  · simp
  · exact NamedType.display_eq_iff named

end Leaf

/-- A shape equals itself. -/
theorem Shape.beq_self (shape : Shape) : (shape == shape) = true := by
  have element : ∀ element : ElementType, (element == element) = true := by
    intro element
    show (element.type == element.type) = true
    exact NamedType.beq_iff.2 rfl
  cases shape with
  | direct => rfl
  | async inner => exact element inner
  | sync inner => exact element inner

namespace TypeDescription

/-! ## Equality -/

/-- Types are equal if they have the same wrappers over equal leaves. -/
theorem beq_iff (left right : TypeDescription) :
    (left == right) = true ↔
      left.wrappers = right.wrappers ∧ (left.leaf == right.leaf) = true := by
  induction left generalizing right with
  | object =>
    cases right with
    | object => exact iff_of_true rfl ⟨rfl, rfl⟩
    | _ => exact iff_of_false Bool.false_ne_true (by simp [wrappers, leaf, Leaf.beq_iff])
  | named type =>
    cases right with
    | named type' =>
      show (type == type') = true ↔ [] = [] ∧ (type == type') = true
      simp
    | _ => exact iff_of_false Bool.false_ne_true (by simp [wrappers, leaf, Leaf.beq_iff])
  | list inner ih =>
    cases right with
    | list inner' =>
      show (inner == inner') = true ↔ _
      simp [ih, wrappers, leaf]
    | _ => exact iff_of_false Bool.false_ne_true (by simp [wrappers])
  | stream element ih =>
    cases right with
    | stream element' =>
      show (element == element') = true ↔ _
      simp [ih, wrappers, leaf]
    | _ => exact iff_of_false Bool.false_ne_true (by simp [wrappers])
  | async inner ih =>
    cases right with
    | async inner' =>
      show (inner == inner') = true ↔ _
      simp [ih, wrappers, leaf]
    | _ => exact iff_of_false Bool.false_ne_true (by simp [wrappers])

variable {left right : TypeDescription}

/-- Equal types with leaves of the same kind are the same. -/
theorem eq_of_beq_of_kind (same : (left == right) = true)
    (held : left.leaf.kind = right.leaf.kind) : left = right := by
  obtain ⟨wrapped, inside⟩ := (beq_iff left right).1 same
  rw [← ofLeaf_wrappers_leaf left, wrapped, Leaf.eq_of_beq_of_kind inside held,
    ofLeaf_wrappers_leaf]

/-- Equal types are written alike if they are held alike, or if they are types of objects. -/
theorem display_eq_iff_of_beq (same : (left == right) = true) :
    left.display = right.display ↔
      left.leaf.kind = right.leaf.kind ∨ left.leaf.elementType.name = objectTypeName := by
  obtain ⟨wrapped, inside⟩ := (beq_iff left right).1 same
  rw [display_eq_iff_of_wrappers wrapped, Leaf.display_eq_iff_of_beq inside]

/-! ## Classification -/

/-- Both types are accepted with equal shapes, or both are refused for the same reason. -/
def ClassifiedAlike (left right : TypeDescription) : Prop :=
  (∃ shape shape', left.classify = .ok shape ∧ right.classify = .ok shape' ∧
    (shape == shape') = true) ∨
  ∃ refusal, left.classify = .error refusal ∧ right.classify = .error refusal

/-- A type is classified as it is classified. -/
theorem classifiedAlike_self (type : TypeDescription) : type.ClassifiedAlike type := by
  cases answer : type.classify with
  | ok shape => exact .inl ⟨shape, shape, answer, answer, shape.beq_self⟩
  | error refusal => exact .inr ⟨refusal, answer, answer⟩

/-- Streams that are classified alike are held alike, as it is shared leaves that are accepted. -/
theorem ClassifiedAlike.kind_eq (alike : left.ClassifiedAlike right) (streams : left.Streams)
    (streams' : right.Streams) : left.leaf.kind = right.leaf.kind := by
  rcases alike with ⟨shape, shape', accepted, accepted', -⟩ | ⟨refusal, refused, refused'⟩
  · rw [Leaf.shared_iff_kind.1 (shared_of_accepted accepted),
      Leaf.shared_iff_kind.1 (shared_of_accepted accepted')]
  · rw [Leaf.owned_iff_kind.1 (owned_of_refused streams refused),
      Leaf.owned_iff_kind.1 (owned_of_refused streams' refused')]

/-- Other types are classified alike if they are written alike. -/
theorem classifiedAlike_iff_of_not_streams (other : ¬ left.Streams) (other' : ¬ right.Streams) :
    left.ClassifiedAlike right ↔ left.display = right.display := by
  unfold ClassifiedAlike
  rw [classify_of_not_streams other, classify_of_not_streams other']
  constructor
  · rintro (⟨shape, shape', accepted, -, -⟩ | ⟨refusal, refused, refused'⟩)
    · cases accepted
    · rw [← refused'] at refused
      exact ConfigError.unrecognizedShape.inj (Except.error.inj refused)
  · intro same
    refine .inr ⟨right.unrecognized, ?_, rfl⟩
    rw [unrecognized, unrecognized, same]

/-- Equal types are classified alike if they are held alike, or if they are types of objects that no
stream yields. -/
theorem classifiedAlike_iff_of_beq (same : (left == right) = true) :
    left.ClassifiedAlike right ↔
      left.leaf.kind = right.leaf.kind ∨
        left.leaf.elementType.name = objectTypeName ∧ ¬ left.Streams := by
  have wrapped := ((beq_iff left right).1 same).1
  by_cases streams : left.Streams
  · have streams' : right.Streams := by rwa [Streams, ← wrapped]
    constructor
    · exact fun alike => .inl (alike.kind_eq streams streams')
    · rintro (held | ⟨-, other⟩)
      · rw [eq_of_beq_of_kind same held]
        exact classifiedAlike_self right
      · exact absurd streams other
  · have other' : ¬ right.Streams := by rwa [Streams, ← wrapped]
    rw [classifiedAlike_iff_of_not_streams streams other', display_eq_iff_of_beq same]
    simp [streams]

/-- Equality does not respect what is seen of types: a stream of shared texts equals a stream of
owned texts, but they are written differently, and only the first is accepted. -/
theorem equal_types_not_alike :
    ((ReturnType.stream (.shared textTypeName)).describe ==
        (ReturnType.stream (.scalar .text)).describe) = true ∧
      (ReturnType.stream (.shared textTypeName)).describe.display ≠
        (ReturnType.stream (.scalar .text)).describe.display ∧
      ¬ (ReturnType.stream (.shared textTypeName)).describe.ClassifiedAlike
        (ReturnType.stream (.scalar .text)).describe := by
  refine ⟨by decide, by decide, ?_⟩
  rintro (⟨shape, shape', accepted, accepted', -⟩ | ⟨refusal, refused, refused'⟩)
  · cases accepted'
  · cases refused

/-- Equal types have the same wrappers over equal leaves. What is seen of them differs by how their
leaves are held and by nothing else: if these are held alike, the types are written and classified
alike. If not, the types are written alike exactly if their leaves are the type of objects, and
classified alike exactly if, besides, they are no streams. -/
theorem equal_types_alike_up_to_kind (left right : TypeDescription)
    (same : (left == right) = true) :
    left.wrappers = right.wrappers ∧ (left.leaf == right.leaf) = true ∧
      (left.leaf.kind = right.leaf.kind →
        left.display = right.display ∧ left.ClassifiedAlike right) ∧
      (left.leaf.kind ≠ right.leaf.kind →
        (left.display = right.display ↔ left.leaf.elementType.name = objectTypeName) ∧
        (left.ClassifiedAlike right ↔
          left.leaf.elementType.name = objectTypeName ∧ ¬ left.Streams)) := by
  obtain ⟨wrapped, inside⟩ := (beq_iff left right).1 same
  refine ⟨wrapped, inside, ?_, ?_⟩
  · intro held
    exact ⟨(display_eq_iff_of_beq same).2 (.inl held),
      (classifiedAlike_iff_of_beq same).2 (.inl held)⟩
  · intro held
    rw [display_eq_iff_of_beq same, classifiedAlike_iff_of_beq same]
    simp [held]

/-- A list of owned objects equals a list of shared ones and is refused in the same words. -/
theorem equal_types_alike_up_to_kind_objects :
    (list (.named { name := objectTypeName, kind := .value }) ==
        list (.named { name := objectTypeName, kind := .reference })) = true ∧
      (list (.named { name := objectTypeName, kind := .value })).leaf.kind ≠
        (list (.named { name := objectTypeName, kind := .reference })).leaf.kind ∧
      (list (.named { name := objectTypeName, kind := .value })).display =
        (list (.named { name := objectTypeName, kind := .reference })).display ∧
      (list (.named { name := objectTypeName, kind := .value })).ClassifiedAlike
        (list (.named { name := objectTypeName, kind := .reference })) := by
  obtain ⟨-, -, -, apart⟩ := equal_types_alike_up_to_kind
    (list (.named { name := objectTypeName, kind := .value }))
    (list (.named { name := objectTypeName, kind := .reference })) (by decide)
  obtain ⟨text, alike⟩ := apart (by decide)
  exact ⟨by decide, by decide, text.2 rfl, alike.2 ⟨rfl, by simp [Streams, wrappers]⟩⟩

end TypeDescription

end SubscriptionFields
