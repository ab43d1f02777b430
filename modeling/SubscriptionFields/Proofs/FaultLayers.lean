import SubscriptionFields.Fault.FieldError

/-!
# What is seen of an error under its layers

A field error is built from a remark or from an error with a type of its own, by putting layers
around it in any order: remarks in front, and wrappings as a field error or as a failed
subscription. Whatever carrier holds it, if only the carrier keeps its laws, each view of the error
goes by the list of these layers (`FieldErrorOf.PresentsLayers`):

* its chain of texts is the remarks that were put in front, and behind them the chain of the error
  at the bottom (`FieldErrorOf.chain_layered`); a wrapping adds nothing to it, wherever it stands;
* its message is the first text of the chain, its full message all of them, parted by colons
  (`Cause.Chain.fullText_eq`);
* what can be recovered from it is what is in reach from outside: each remark that was put in front,
  down to the first wrapping, which ends the reach, or down to the error at the bottom
  (`FieldErrorOf.recover?_layered`). Of two values of one type the outer one is found.

The carrier of faults keeps the laws. Most of them hold by its definitions; that of the full text
holds because the chain of a fault follows its views from one to the next (`Fault.chain_carried`).
So all this holds of the errors of a running program.
-/

set_option autoImplicit false

namespace SubscriptionFields

open ErrorCarrier LawfulErrorCarrier

variable {ε : Type} [ErrorCarrier ε]

/-! ## Chains -/

namespace Cause

/-- An error has one chain only. -/
theorem Chain.unique {cause : Cause ε} {first second : List String} (one : cause.Chain first)
    (other : cause.Chain second) : first = second := by
  induction one generalizing second with
  | last ends =>
    cases other with
    | last => rfl
    | next source => cases ends.symm.trans source
  | next source rest ih =>
    cases other with
    | last ends => cases ends.symm.trans source
    | next again behind =>
      cases source.symm.trans again
      rw [ih behind]

/-- Errors with the same text and the same cause have the same chain. -/
theorem Chain.of_view {first second : Cause ε} {texts : List String} (chain : first.Chain texts)
    (text : second.view.text = first.view.text) (cause : second.view.cause? = first.view.cause?) :
    second.Chain texts := by
  cases chain with
  | last ends =>
    rw [← text]
    exact .last (cause.trans ends)
  | next source rest =>
    rw [← text]
    exact .next (cause.trans source) rest

/-- The chain of an error begins with its own text. -/
theorem Chain.head?_eq {cause : Cause ε} {texts : List String} (chain : cause.Chain texts) :
    texts.head? = some cause.view.text := by
  cases chain <;> rfl

/-- The chain of an error of known type is the one that it has by itself. -/
theorem chain_known (error : KnownFault) :
    (typed (.known error) : Cause ε).Chain error.chain := by
  rw [KnownFault.chain_eq]
  cases next : error.source? with
  | none =>
    apply Chain.last
    simp only [view, TypedError.view, next, Option.map_none]
  | some source =>
    have rest := chain_known source
    refine Chain.next ?_ rest
    simp only [view, TypedError.view, next, Option.map_some]
termination_by error.depth
decreasing_by exact KnownFault.depth_source? next

/-- Texts parted by colons are written from the first on. -/
theorem intercalate_colon (text : String) (texts : List String) :
    ": ".intercalate (text :: texts) =
      texts.foldl (fun written behind => written ++ ": " ++ behind) text := by
  unfold String.intercalate
  induction texts generalizing text with
  | nil => rfl
  | cons behind texts ih => exact ih (text ++ ": " ++ behind)

/-- With all that stands behind it, an error shows the texts of its chain, parted by colons. -/
theorem Chain.fullText_eq [LawfulErrorCarrier ε] {error : ε} {texts : List String}
    (chain : (carried error).Chain texts) :
    (ErrorCarrier.view error).fullText = ": ".intercalate texts := by
  cases texts with
  | nil => cases chain.head?_eq
  | cons text texts => rw [LawfulErrorCarrier.fullText_eq error text texts chain, intercalate_colon]

end Cause

/-! ## Layers -/

/-- A layer around a field error. -/
inductive FaultLayer (ε : Type) where
  /-- A remark in front. -/
  | context (remark : Remark ε)
  /-- The field error wrapped as an error. -/
  | fieldError
  /-- A subscription that failed with the field error, wrapped as an error. -/
  | failedSubscription

/-- What stands under all layers. -/
inductive FaultBase (ε : Type) where
  | text (remark : Remark ε)
  | known (error : KnownFault)

/-- The field error with one more layer around it. -/
def FaultLayer.wrap (error : FieldErrorOf ε) : FaultLayer ε → FieldErrorOf ε
  | .context remark => { fault := withRemark error.fault remark }
  | .fieldError => .new (.fieldError error)
  | .failedSubscription => .new (.failedSubscription error)

/-- The text that a layer puts in front. -/
def FaultLayer.text? : FaultLayer ε → Option String
  | .context remark => some remark.display
  | .fieldError => none
  | .failedSubscription => none

def FaultBase.error : FaultBase ε → FieldErrorOf ε
  | .text remark => .msg remark
  | .known error => .ofKnown error

/-- The texts of what stands under all layers. A remark has one only. -/
def FaultBase.chain : FaultBase ε → List String
  | .text remark => [remark.display]
  | .known error => error.chain

def FaultBase.value : FaultBase ε → FaultValue ε
  | .text remark => remark.value
  | .known error => error.value

namespace FieldErrorOf

/-- The field error that has the given layers, from the outermost to the innermost, around a base.
-/
def layered (layers : List (FaultLayer ε)) (base : FaultBase ε) : FieldErrorOf ε :=
  layers.foldr (fun layer error => layer.wrap error) base.error

/-- The texts of the layers and behind them those of the base. -/
def layeredTexts (layers : List (FaultLayer ε)) (base : FaultBase ε) : List String :=
  layers.filterMap FaultLayer.text? ++ base.chain

variable [LawfulErrorCarrier ε]

/-! ## Texts -/

/-- A wrapping shows the text and has the cause of what it wraps. -/
theorem chain_fieldError {error : FieldErrorOf ε} {texts : List String}
    (chain : (Cause.carried error.fault).Chain texts) :
    (Cause.typed (.fieldError error)).Chain texts :=
  chain.of_view (text_transparent _) (cause?_transparent _)

/-- A failed subscription has the chain of the error that it holds. -/
theorem chain_failedSubscription {error : FieldErrorOf ε} {texts : List String}
    (chain : (Cause.carried error.fault).Chain texts) :
    (Cause.typed (.failedSubscription error)).Chain texts :=
  (chain_fieldError chain).of_view (text_transparent _) (cause?_transparent _)

/-- What is held has the chain of the error that is held. -/
theorem chain_new {error : TypedError ε} {texts : List String}
    (chain : (Cause.typed error).Chain texts) :
    (Cause.carried (new error).fault).Chain texts :=
  chain.of_view (text_ofError error) (cause?_ofError error)

/-- The chain of an innermost error is that of its base. -/
theorem chain_base (base : FaultBase ε) : (Cause.carried base.error.fault).Chain base.chain := by
  cases base with
  | text remark =>
    rw [FaultBase.chain, ← text_ofRemark]
    exact .last (cause?_ofRemark remark)
  | known error => exact chain_new (Cause.chain_known error)

/-- A layer adds its text to the chain, if it has one. -/
theorem chain_wrap {error : FieldErrorOf ε} {texts : List String}
    (chain : (Cause.carried error.fault).Chain texts) (layer : FaultLayer ε) :
    (Cause.carried (layer.wrap error).fault).Chain (layer.text?.toList ++ texts) := by
  cases layer with
  | context remark =>
    rw [FaultLayer.text?, ← text_withRemark error.fault]
    exact .next (cause?_withRemark error.fault remark) chain
  | fieldError => exact chain_new (chain_fieldError chain)
  | failedSubscription => exact chain_new (chain_failedSubscription chain)

/-- A chain is the texts of the layers, and behind them the chain of the base. -/
theorem chain_layered (layers : List (FaultLayer ε)) (base : FaultBase ε) :
    (Cause.carried (layered layers base).fault).Chain (layeredTexts layers base) := by
  induction layers with
  | nil => exact chain_base base
  | cons layer layers ih =>
    have outer := chain_wrap ih layer
    unfold layeredTexts at outer ⊢
    cases text : layer.text? with
    | none =>
      rw [List.filterMap_cons_none text]
      rwa [text, Option.toList_none, List.nil_append] at outer
    | some words =>
      rw [List.filterMap_cons_some text]
      rwa [text, Option.toList_some, List.singleton_append] at outer

end FieldErrorOf

/-! ## Values in reach -/

omit [ErrorCarrier ε] in
/-- A value is found as the value that it is. -/
theorem FaultValue.as?_eq_some_iff {value : FaultValue ε} {target : CastTarget}
    {data : target.Value ε} : value.as? target = some data ↔ value = ⟨target, data⟩ := by
  obtain ⟨own, content⟩ := value
  unfold as?
  constructor
  · intro found
    split at found
    · rename_i same
      cases same
      cases found
      rfl
    · cases found
  · intro same
    cases same
    exact dif_pos rfl

omit [ErrorCarrier ε] in
/-- A value is not found exactly under the types that are not its own. -/
theorem FaultValue.as?_eq_none_iff {value : FaultValue ε} {target : CastTarget} :
    value.as? target = none ↔ value.1 ≠ target := by
  unfold as?
  split
  · rename_i same
    exact iff_of_false nofun (fun other => other same)
  · rename_i other
    exact iff_of_true rfl other

namespace FieldErrorOf

/-- The values that are in reach from outside, the outermost first: the remarks in front down to the
first wrapping, and then the wrapped error or, if nothing is wrapped, the base. -/
def reach (base : FaultBase ε) : List (FaultLayer ε) → List (FaultValue ε)
  | [] => [base.value]
  | .context remark :: layers => remark.value :: reach base layers
  | .fieldError :: layers => [⟨.known .fieldError, layered layers base⟩]
  | .failedSubscription :: layers => [⟨.known .subscribeError, .field (layered layers base)⟩]

variable [LawfulErrorCarrier ε]

/-- From an innermost error its value is recovered, and under its own type only. -/
theorem recover?_base (base : FaultBase ε) (target : CastTarget) :
    base.error.recover? target = base.value.as? target := by
  cases base with
  | text remark => exact recover?_ofRemark remark target
  | known error => exact recover?_ofError (.known error) target

/-- The first value in reach that is of the type asked for is recovered. -/
theorem recover?_layered (layers : List (FaultLayer ε)) (base : FaultBase ε)
    (target : CastTarget) :
    (layered layers base).recover? target = (reach base layers).findSome? (·.as? target) := by
  induction layers with
  | nil =>
    rw [reach, List.findSome?_singleton]
    exact recover?_base base target
  | cons layer layers ih =>
    cases layer with
    | context remark =>
      have outer : (layered (.context remark :: layers) base).recover? target =
          (remark.value.as? target).or ((layered layers base).recover? target) :=
        recover?_withRemark _ remark target
      rw [outer, ih, reach, List.findSome?_cons]
      cases remark.value.as? target <;> rfl
    | fieldError =>
      -- what is held is the wrapping, whatever it wraps
      rw [reach, List.findSome?_singleton]
      exact recover?_ofError (.fieldError (layered layers base)) target
    | failedSubscription =>
      rw [reach, List.findSome?_singleton]
      exact recover?_ofError (.failedSubscription (layered layers base)) target

/-- What is recovered stands in reach, and no other value of that type stands outside of it. -/
theorem recover?_layered_eq_some_iff {layers : List (FaultLayer ε)} {base : FaultBase ε}
    {target : CastTarget} {data : target.Value ε} :
    (layered layers base).recover? target = some data ↔
      ∃ outer inner, reach base layers = outer ++ ⟨target, data⟩ :: inner ∧
        ∀ value ∈ outer, value.1 ≠ target := by
  rw [recover?_layered, List.findSome?_eq_some_iff]
  constructor
  · rintro ⟨outer, value, inner, split, found, others⟩
    cases FaultValue.as?_eq_some_iff.1 found
    exact ⟨outer, inner, split, fun value listed =>
      FaultValue.as?_eq_none_iff.1 (others value listed)⟩
  · rintro ⟨outer, inner, split, others⟩
    exact ⟨outer, ⟨target, data⟩, inner, split, FaultValue.as?_eq_some_iff.2 rfl,
      fun value listed => FaultValue.as?_eq_none_iff.2 (others value listed)⟩

/-- What can be recovered is what a cast reaches through the layers. -/
theorem isSome_recover?_layered_iff {layers : List (FaultLayer ε)} {base : FaultBase ε}
    {target : CastTarget} :
    ((layered layers base).recover? target).isSome ↔
      ∃ value ∈ reach base layers, value.1 = target := by
  rw [recover?_layered, List.isSome_findSome?, List.any_eq_true]
  constructor
  · rintro ⟨value, listed, found⟩
    obtain ⟨data, same⟩ := Option.isSome_iff_exists.1 found
    cases FaultValue.as?_eq_some_iff.1 same
    exact ⟨_, listed, rfl⟩
  · rintro ⟨⟨own, data⟩, listed, rfl⟩
    refine ⟨⟨own, data⟩, listed, ?_⟩
    rw [FaultValue.as?_eq_some_iff.2 rfl]
    rfl

omit [LawfulErrorCarrier ε] in
/-- A known type is listed for an error exactly if a value of that type can be recovered. -/
theorem mem_types_iff {error : FieldErrorOf ε} {type : FaultType} :
    type ∈ error.types ↔ (error.recover? (.known type)).isSome := by
  have complete : type ∈ FaultType.all := by cases type <;> decide
  unfold types
  rw [List.mem_filter]
  exact and_iff_right complete

/-! ## All views -/

omit [LawfulErrorCarrier ε] in
/-- The views of a field error go by its layers and what stands under them. -/
structure PresentsLayers (error : FieldErrorOf ε) (layers : List (FaultLayer ε))
    (base : FaultBase ε) : Prop where
  /-- Its chain is the texts in front, the outermost first, and the chain of the base. -/
  chain_iff : ∀ texts, (Cause.typed (.fieldError error)).Chain texts ↔
    texts = layeredTexts layers base
  /-- Its message is the first text of the chain. -/
  message_eq : some error.message = (layeredTexts layers base).head?
  /-- Its full message is made of all texts of the chain. -/
  fullMessage_eq : error.fullMessage = ": ".intercalate (layeredTexts layers base)
  /-- What it holds shows the same. -/
  inside_alike : (ErrorCarrier.view error.fault).text = error.message ∧
    (ErrorCarrier.view error.fault).fullText = error.fullMessage
  /-- The types of which a value can be recovered are those of the values in reach. -/
  isSome_recover?_iff : ∀ target, (error.recover? target).isSome ↔
    ∃ value ∈ reach base layers, value.1 = target
  /-- What is recovered is the outermost of the values in reach that are of the type asked for. -/
  recover?_iff : ∀ (target : CastTarget) (data : target.Value ε),
    error.recover? target = some data ↔
      ∃ outer inner, reach base layers = outer ++ ⟨target, data⟩ :: inner ∧
        ∀ value ∈ outer, value.1 ≠ target
  /-- The known types that are listed for the error are those among them. -/
  types_iff : ∀ type, type ∈ error.types ↔ ∃ value ∈ reach base layers, value.1 = .known type

/-- Errors are presented layer by layer. In any carrier that keeps its laws, whatever layers stand
around whatever base, the error shows the texts of all of them and of the base, and what can be
recovered from it is what is in reach. -/
theorem presented_by_layers (layers : List (FaultLayer ε)) (base : FaultBase ε) :
    (layered layers base).PresentsLayers layers base := by
  have held := chain_layered layers base
  have chain := chain_fieldError held
  have inside := fullText_transparent (ErrorCarrier.view (layered layers base).fault)
  refine
    { chain_iff := ?chain_iff
      message_eq := chain.head?_eq.symm
      fullMessage_eq := inside.trans held.fullText_eq
      inside_alike := ⟨(text_transparent _).symm, inside.symm⟩
      isSome_recover?_iff := fun target => isSome_recover?_layered_iff
      recover?_iff := fun target data => recover?_layered_eq_some_iff
      types_iff := fun type => mem_types_iff.trans isSome_recover?_layered_iff }
  case chain_iff =>
    intro texts
    constructor
    · intro other
      exact other.unique chain
    · rintro rfl
      exact chain

end FieldErrorOf

/-! ## The carrier of faults -/

/-- The texts that a fault lists are those of its chain. -/
theorem Fault.chain_carried (fault : Fault) : (Cause.carried fault).Chain fault.chain := by
  match fault with
  | .text remark => exact .last rfl
  | .typed (.known error) => exact (Cause.chain_known error).of_view rfl rfl
  | .typed (.fieldError { fault }) => exact (chain_carried fault).of_view rfl rfl
  | .typed (.failedSubscription { fault }) => exact (chain_carried fault).of_view rfl rfl
  | .context remark inner => exact .next rfl (chain_carried inner)

/-- A remark that a fault holds is shown by its text. -/
theorem Fault.ofRemark_eq (remark : Remark Fault) : message.ofRemark remark = remark.display := by
  cases remark with
  | text words => rfl
  | shown value => cases value <;> rfl

instance : LawfulErrorCarrier Fault where
  text_ofError error := by cases error <;> rfl
  cause?_ofError error := by cases error <;> rfl
  text_ofRemark := Fault.ofRemark_eq
  cause?_ofRemark _ := rfl
  text_withRemark _ := Fault.ofRemark_eq
  cause?_withRemark _ _ := rfl
  fullText_eq fault text texts chain := by
    rw [← Cause.intercalate_colon, ← fault.chain_carried.unique chain]
    rfl
  recover?_ofError _ _ := rfl
  recover?_ofRemark _ _ := rfl
  recover?_withRemark _ _ _ := rfl
  text_transparent _ := rfl
  fullText_transparent _ := rfl
  cause?_transparent _ := rfl

/-- An error behind a subscription that failed, with two remarks in front of it, of which the inner
one is an error itself: of the two quotas the one in front is found, and what failed is found as a
whole. -/
theorem FieldErrorOf.presented_by_layers_quota :
    let layers : List (FaultLayer Fault) :=
      [.context "load", .context (.shown (.known (.quotaExceeded "till"))), .failedSubscription]
    let base : FaultBase Fault := .known (.quotaExceeded "desk")
    let error : FieldError := .layered layers base
    LawfulErrorCarrier Fault ∧ error.PresentsLayers layers base ∧
      error.fullMessage = "load: quota exceeded for till: quota exceeded for desk" ∧
      error.recover? (.known .text) = some "load" ∧
      error.recover? (.known .quotaExceeded) = some "till" ∧
      error.recover? (.known .subscribeError) = some (.field (.ofKnown (.quotaExceeded "desk"))) ∧
      error.recover? (.known .fieldError) = none := by
  intro layers base error
  have presented : error.PresentsLayers layers base := presented_by_layers layers base
  refine ⟨inferInstance, presented, presented.fullMessage_eq.trans (by decide), ?_, ?_, ?_, rfl⟩
  · exact (presented.recover?_iff _ _).2 ⟨[], _, rfl, nofun⟩
  · exact (presented.recover?_iff _ _).2 ⟨[⟨.known .text, "load"⟩], _, rfl, by simp⟩
  · exact (presented.recover?_iff (.known .subscribeError) _).2
      ⟨[⟨.known .text, "load"⟩, ⟨.known .quotaExceeded, "till"⟩], [], rfl, by simp⟩

namespace FieldError

/-- Every error of a running program is built in layers. -/
theorem exists_layered (error : FieldError) :
    ∃ layers base, error = FieldErrorOf.layered layers base := by
  obtain ⟨fault⟩ := error
  match fault with
  | .text remark => exact ⟨[], .text remark, rfl⟩
  | .typed (.known error) => exact ⟨[], .known error, rfl⟩
  | .typed (.fieldError inner) =>
    obtain ⟨layers, base, rfl⟩ := exists_layered inner
    exact ⟨.fieldError :: layers, base, rfl⟩
  | .typed (.failedSubscription inner) =>
    obtain ⟨layers, base, rfl⟩ := exists_layered inner
    exact ⟨.failedSubscription :: layers, base, rfl⟩
  | .context remark inner =>
    obtain ⟨layers, base, rest⟩ := exists_layered { fault := inner }
    refine ⟨.context remark :: layers, base, ?_⟩
    exact congrArg (FaultLayer.wrap · (.context remark)) rest

end FieldError

end SubscriptionFields
