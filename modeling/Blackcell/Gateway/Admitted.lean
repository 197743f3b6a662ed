import Blackcell.Gateway.Router

/-!
# Admitted calls

What the gateway guarantees of a call that returns, stated apart from the order of its checks: the
profile is the best of all that the policy of the request admits, the recorded usage is within both
layers of limits, and the output is a value that the schema describes. A call that is not prepared is
independent of what any adapter would do.

## Main definitions

* `Satisfies` : a value is described by a schema.
* `ModelGateway.answering` : the gateway with other adapters behind its registrations.
* `ModelGateway.Admitted` : what is true of a result of the gateway.

## Main results

* `satisfies_of_validateValue` : a validated value is described by its schema.
* `ModelGateway.precedes_of_select` : the selected profile is the best of the eligible ones.
* `ModelGateway.invoke_admits` : the gateway.
-/

namespace Blackcell.Gateway

open Blackcell.Kernel

/-! ### Described values -/

/-- A declaration of types names one that a value has. -/
def Declares (declaration v : JsonValue) : Prop :=
  ∃ name, (declaration = .str name ∨ ∃ names, declaration = .list names ∧ .str name ∈ names) ∧
    matchesType v name = true

/-- What a schema demands of a value, apart from the parts of it. -/
structure Conforms (schema : Mapping) (v : JsonValue) : Prop where
  type : ∀ declaration, schema.lookup "type" = some declaration → Declares declaration v
  const : ∀ c, schema.lookup "const" = some c → jsonEqual v c = true
  enum : ∀ items, schema.lookup "enum" = some (.list items) → ∃ e ∈ items, jsonEqual v e = true
  minimum : ∀ x b, asNumber v = some x → asNumber (schema.get "minimum") = some b → b ≤ x
  maximum : ∀ x b, asNumber v = some x → asNumber (schema.get "maximum") = some b → x ≤ b
  exclusiveMinimum : ∀ x b, asNumber v = some x →
    asNumber (schema.get "exclusiveMinimum") = some b → b < x
  exclusiveMaximum : ∀ x b, asNumber v = some x →
    asNumber (schema.get "exclusiveMaximum") = some b → x < b
  minLength : ∀ s n, v = .str s → schema.get "minLength" = .int n → n ≤ s.length
  maxLength : ∀ (s : String) n, v = .str s → schema.get "maxLength" = .int n → (s.length : Int) ≤ n
  maxItems : ∀ (items : List JsonValue) n, v = .list items → schema.get "maxItems" = .int n →
    (items.length : Int) ≤ n
  uniqueItems : ∀ items, v = .list items → schema.get "uniqueItems" = .bool true →
    items.Pairwise fun a b ↦ jsonEqual a b = false
  required : ∀ fields names name, v = .object fields → schema.get "required" = .list names →
    .str name ∈ names → name ∈ Mapping.keys fields
  closed : ∀ fields, v = .object fields → schema.get "additionalProperties" = .bool false →
    ∀ name ∈ Mapping.keys fields, ∃ properties, schema.get "properties" = .object properties ∧
      name ∈ Mapping.keys properties

/-- A value is described by a schema: it conforms to it, its declared fields are described by the
schemas of their properties, and its items by the schema of the items. -/
inductive Satisfies : Mapping → JsonValue → Prop
  | intro {schema v} (conforms : Conforms schema v)
    (properties : ∀ fields properties name w inner, v = .object fields →
      schema.get "properties" = .object properties → (name, w) ∈ fields →
      Mapping.get properties name = .object inner → Satisfies inner w)
    (items : ∀ elements inner w, v = .list elements → schema.get "items" = .object inner →
      w ∈ elements → Satisfies inner w) : Satisfies schema v

section Described

variable {path : List Segment} {schema : Mapping} {v : JsonValue}

/-- The texts of items are items that are texts. -/
theorem textItems?_eq_some {items : List JsonValue} {names : List String} :
    textItems? items = some names ↔ items = names.map .str := by
  unfold textItems?
  induction items generalizing names with
  | nil => cases names <;> simp
  | cons item items ih =>
    simp only [List.mapM_cons, Option.bind_eq_bind, Option.bind_eq_some_iff,
      JsonValue.text?_eq_some, Option.pure_def, Option.some.injEq, ih]
    constructor
    · rintro ⟨name, rfl, names, rfl, rfl⟩
      rfl
    · intro h
      cases names with
      | nil => cases h
      | cons name names =>
        obtain ⟨rfl, rfl⟩ := List.cons.inj h
        exact ⟨name, rfl, names, rfl, rfl⟩

/-- The declared types are those under `type`. -/
theorem declares_of_declaredTypes {types : Option (List String)}
    (htypes : declaredTypes path schema = .ok types)
    (hmatches : ∀ names ∈ types, names.any (matchesType v) = true) {declaration : JsonValue}
    (hlookup : schema.lookup "type" = some declaration) : Declares declaration v := by
  have hdeclares : ∀ names, types = some names → (∀ name ∈ names,
      declaration = .str name ∨ ∃ items, declaration = .list items ∧ .str name ∈ items) →
      Declares declaration v := by
    intro names htypes hnames
    obtain ⟨name, hname, hmatch⟩ := List.any_eq_true.mp (hmatches names htypes)
    exact ⟨name, hnames name hname, hmatch⟩
  simp only [declaredTypes, hlookup] at htypes
  split at htypes
  · rename_i name
    simp only [Checked.bind_eq_ok, Checked.pure_eq_ok] at htypes
    obtain ⟨names, rfl, _, -, _, -, rfl⟩ := htypes
    exact hdeclares _ rfl fun name' hname' ↦ .inl (by rw [List.mem_singleton.mp hname'])
  · rename_i items
    split at htypes
    · rename_i item items texts htexts
      simp only [Checked.bind_eq_ok, Checked.pure_eq_ok] at htypes
      obtain ⟨names, rfl, _, -, _, -, rfl⟩ := htypes
      refine hdeclares _ rfl fun name hname ↦ .inr ⟨_, rfl, ?_⟩
      rw [textItems?_eq_some.mp htexts]
      exact List.mem_map_of_mem hname
    · simp at htypes
  · simp at htypes

/-- No item is equal to a later one. -/
theorem pairwise_of_distinctItems {items : List JsonValue} (h : distinctItems items = true) :
    items.Pairwise fun a b ↦ jsonEqual a b = false := by
  induction items with
  | nil => exact .nil
  | cons a items ih =>
    simp only [distinctItems, Bool.and_eq_true, List.all_eq_true, Bool.not_eq_true'] at h
    exact .cons h.1 (ih h.2)

/-- A value that passes the checks apart from those of its parts conforms. -/
theorem conforms_of_checkValue {u : Unit} (h : checkValue path schema v = .ok u) :
    Conforms schema v := by
  simp only [checkValue, Checked.bind_eq_ok, expect_eq_ok] at h
  obtain ⟨types, htypes, _, hmatches, _, hconst, _, henum, h⟩ := h
  have henum' : ∀ items, schema.lookup "enum" = some (.list items) →
      ∃ e ∈ items, jsonEqual v e = true := fun items hitems ↦
    List.any_eq_true.mp (henum items (by simp [hitems]))
  cases v with
  | object fields =>
    simp only [Checked.bind_eq_ok, expect_eq_ok] at h
    obtain ⟨_, hmissing, h⟩ := h
    refine ⟨fun _ ↦ declares_of_declaredTypes htypes hmatches, hconst, henum', by simp [asNumber],
      by simp [asNumber], by simp [asNumber], by simp [asNumber], by rintro _ _ ⟨⟩,
      by rintro _ _ ⟨⟩, by rintro _ _ ⟨⟩, by rintro _ ⟨⟩, ?_, ?_⟩
    · rintro fields' names name ⟨⟩ hrequired hname
      by_contra hnot
      have hmem : name ∈ ((((schema.get "required").items?.getD []).filterMap JsonValue.text?).filter
          fun name ↦ !(Mapping.keys fields).contains name) := by
        rw [List.mem_filter, List.mem_filterMap]
        refine ⟨⟨.str name, ?_, rfl⟩, by simpa using hnot⟩
        rw [hrequired]
        exact hname
      rw [hmissing] at hmem
      exact List.not_mem_nil hmem
    · rintro fields' ⟨⟩ hclosed name hname
      rw [if_pos hclosed, expect_eq_ok] at h
      cases hproperties : schema.get "properties" with
      | object properties =>
        refine ⟨properties, rfl, ?_⟩
        by_contra hnot
        rw [hproperties] at h
        have hmem : name ∈ sortedNames ((Mapping.keys fields).filter fun name ↦
            !(Mapping.keys properties).contains name) := by
          rw [mem_sortedNames, List.mem_filter]
          exact ⟨hname, by simpa using hnot⟩
        change sortedNames ((Mapping.keys fields).filter fun name ↦
          !(Mapping.keys properties).contains name) = [] at h
        rw [h] at hmem
        exact List.not_mem_nil hmem
      | _ =>
        exfalso
        rw [hproperties] at h
        have hmem : name ∈ sortedNames ((Mapping.keys fields).filter fun name ↦
            !(Mapping.keys []).contains name) := by
          rw [mem_sortedNames, List.mem_filter]
          exact ⟨hname, by simp [Mapping.keys]⟩
        change sortedNames ((Mapping.keys fields).filter fun name ↦
          !(Mapping.keys []).contains name) = [] at h
        rw [h] at hmem
        exact List.not_mem_nil hmem
  | list items =>
    simp only [Checked.bind_eq_ok, expect_eq_ok] at h
    obtain ⟨_, hmax, hunique⟩ := h
    refine ⟨fun _ ↦ declares_of_declaredTypes htypes hmatches, hconst, henum', by simp [asNumber],
      by simp [asNumber], by simp [asNumber], by simp [asNumber], by rintro _ _ ⟨⟩,
      by rintro _ _ ⟨⟩, ?_, ?_, by rintro _ _ _ ⟨⟩, by rintro _ ⟨⟩⟩
    · rintro items' n ⟨⟩ hn
      exact hmax n (by simp [hn])
    · rintro items' ⟨⟩ htrue
      exact pairwise_of_distinctItems (hunique htrue)
  | str s =>
    simp only [Checked.bind_eq_ok, expect_eq_ok] at h
    obtain ⟨_, hmin, hmax⟩ := h
    refine ⟨fun _ ↦ declares_of_declaredTypes htypes hmatches, hconst, henum', by simp [asNumber],
      by simp [asNumber], by simp [asNumber], by simp [asNumber], ?_, ?_, by rintro _ _ ⟨⟩,
      by rintro _ ⟨⟩, by rintro _ _ _ ⟨⟩, by rintro _ ⟨⟩⟩
    · rintro s' n ⟨⟩ hn
      exact hmin n (by simp [hn])
    · rintro s' n ⟨⟩ hn
      exact hmax n (by simp [hn])
  | null | bool _ | int _ | float _ =>
    refine ⟨fun _ ↦ declares_of_declaredTypes htypes hmatches, hconst, henum', ?_, ?_, ?_, ?_,
      by rintro _ _ ⟨⟩, by rintro _ _ ⟨⟩, by rintro _ _ ⟨⟩, by rintro _ ⟨⟩, by rintro _ _ _ ⟨⟩,
      by rintro _ ⟨⟩⟩ <;>
    · intro x b hx hb
      simp only [hx, checkNumber, Checked.bind_eq_ok, expect_eq_ok, decide_eq_true_eq] at h
      obtain ⟨_, hmin, _, hmax, _, hmin', hmax'⟩ := h
      first | exact hmin b hb | exact hmax b hb | exact hmin' b hb | exact hmax' b hb

end Described

section Validated

variable {path : List Segment} {schema properties inner : Mapping} {name : String} {w : JsonValue}

/-- A declared field of an object is validated against the schema of its property. -/
theorem validateValue_of_validateFields {fields : List (String × JsonValue)} {u : Unit}
    (h : validateFields path properties fields = .ok u) (hmem : (name, w) ∈ fields)
    (hinner : Mapping.get properties name = .object inner) :
    validateValue (path ++ [.property name]) inner w = .ok () := by
  induction fields with
  | nil => cases hmem
  | cons field fields ih =>
    obtain ⟨key, v⟩ := field
    simp only [validateFields] at h
    rcases List.mem_cons.mp hmem with heq | hmem
    · obtain ⟨rfl, rfl⟩ := Prod.mk.inj heq
      rw [hinner] at h
      simp only [JsonValue.fields?, Checked.bind_eq_ok] at h
      exact h.choose_spec.1
    · cases hkey : (Mapping.get properties key).fields? with
      | none => exact ih (by simpa only [hkey] using h) hmem
      | some schema =>
        simp only [hkey, Checked.bind_eq_ok] at h
        exact ih h.choose_spec.2 hmem

/-- An item of an array is validated against the schema of the items. -/
theorem validateValue_of_validateElements {index : Nat} {items : List JsonValue} {u : Unit}
    (h : validateElements path schema index items = .ok u) (hmem : w ∈ items) :
    ∃ index, validateValue (path ++ [.item index]) schema w = .ok () := by
  induction items generalizing index with
  | nil => cases hmem
  | cons v items ih =>
    simp only [validateElements, Checked.bind_eq_ok] at h
    obtain ⟨_, hvalue, hrest⟩ := h
    rcases List.mem_cons.mp hmem with rfl | hmem
    · exact ⟨index, hvalue⟩
    · exact ih hrest hmem

/-- **Values.** A validated value is described by its schema. -/
theorem satisfies_of_validateValue (v : JsonValue) {path : List Segment} {schema : Mapping}
    {u : Unit} (h : validateValue path schema v = .ok u) : Satisfies schema v := by
  cases v with
  | object fields =>
    simp only [validateValue, Checked.bind_eq_ok] at h
    obtain ⟨_, hvalue, hfields⟩ := h
    refine .intro (conforms_of_checkValue hvalue) ?_ (by rintro _ _ _ ⟨⟩)
    rintro fields' properties name w inner ⟨⟩ hproperties hmem hinner
    rw [hproperties] at hfields
    exact satisfies_of_validateValue w (validateValue_of_validateFields hfields hmem hinner)
  | list items =>
    simp only [validateValue, Checked.bind_eq_ok] at h
    obtain ⟨_, hvalue, helements⟩ := h
    refine .intro (conforms_of_checkValue hvalue) (by rintro _ _ _ _ _ ⟨⟩) ?_
    rintro items' inner w ⟨⟩ hinner hmem
    rw [hinner] at helements
    obtain ⟨_, hw⟩ := validateValue_of_validateElements helements hmem
    exact satisfies_of_validateValue w hw
  | null | bool _ | int _ | float _ | str _ =>
    simp only [validateValue] at h
    exact .intro (conforms_of_checkValue h) (by rintro _ _ _ _ _ ⟨⟩) (by rintro _ _ _ ⟨⟩)
termination_by v
decreasing_by
  · have := List.sizeOf_lt_of_mem hmem
    simp_all
    omega
  · have := List.sizeOf_lt_of_mem hmem
    simp_all
    omega

end Validated

/-- **Outputs.** A validated output is described by its schema. -/
theorem satisfies_of_validateOutput {output schema : Mapping}
    (h : validateOutput output schema = .ok ()) : Satisfies schema (.object output) := by
  simp only [validateOutput, Checked.bind_eq_ok] at h
  obtain ⟨_, -, _, -, _, -, hvalue⟩ := h
  exact satisfies_of_validateValue _ hvalue

/-! ### The gateway -/

/-- The profile of a route precedes that of another. -/
theorem precedes_total (a b : GatewayProfile) : Precedes a b ∨ Precedes b a := by
  rcases lt_trichotomy a.priority b.priority with h | h | h
  · exact .inl (.inl h)
  · rcases le_total a.profileId b.profileId with hid | hid
    · exact .inl (.inr ⟨h, hid⟩)
    · exact .inr (.inr ⟨h.symm, hid⟩)
  · exact .inr (.inl h)

theorem precedes_trans {a b c : GatewayProfile} (hab : Precedes a b) (hbc : Precedes b c) :
    Precedes a c := by
  rcases hab with hab | ⟨hab, hid⟩ <;> rcases hbc with hbc | ⟨hbc, hid'⟩
  · exact .inl (hab.trans hbc)
  · exact .inl (hbc ▸ hab)
  · exact .inl (hab ▸ hbc)
  · exact .inr ⟨hab.trans hbc, hid.trans hid'⟩

namespace ModelGateway

variable (H : Host) (gateway : ModelGateway)

/-- The gateway with other adapters behind its registrations. -/
def answering (invoke : String → ModelRequest → String → Routed AdapterResult) : ModelGateway where
  profiles := gateway.profiles
  adapters := gateway.adapters.map fun entry ↦
    (entry.1, { entry.2 with invoke := invoke entry.1 })
  auditSink := gateway.auditSink
  clock := gateway.clock
  nodup_profiles := gateway.nodup_profiles
  nodup_adapters := by
    rw [List.map_map]
    exact gateway.nodup_adapters
  registered := by
    intro entry hmem
    obtain ⟨entry, hentry, rfl⟩ := List.mem_map.mp hmem
    exact gateway.registered entry hentry

/-- What is true of a result of the gateway: a registered profile with its adapter is eligible and
precedes each eligible one, the decision and the response name it, and what its adapter reports is
affordable and described by the schema of the request. -/
structure Admitted (request : ModelRequest) (answer : GatewayResult) (profile : GatewayProfile)
    (adapter : ModelAdapter) (result : AdapterResult) : Prop where
  profile_mem : profile ∈ gateway.profiles
  lookup_adapter : gateway.adapters.lookup profile.adapterId = some adapter
  eligible : Eligible request profile adapter
  minimum : ∀ p ∈ gateway.profiles, ∀ a, gateway.adapters.lookup p.adapterId = some a →
    Eligible request p a → Precedes profile p
  invoked : adapter.invoke { request with budget := effectiveBudget request profile }
    profile.modelId = .ok result
  affords : Affords request profile result
  satisfies : Satisfies request.outputSchema (.object result.output)
  decision_eq : answer.decision = decision request profile adapter
  response_eq : answer.response = gateway.responseOf request profile adapter result

section Admission

variable {H gateway} {request : ModelRequest}
  {invocations : String → ModelRequest → String → Routed AdapterResult}

/-- **Selection.** The selected profile is the best of the eligible ones. -/
theorem precedes_of_select {route : { route : GatewayProfile × ModelAdapter //
    Eligible request route.1 route.2 }} (h : gateway.select request = .ok route)
    {profile : GatewayProfile} {adapter : ModelAdapter} (hprofile : profile ∈ gateway.profiles)
    (hadapter : gateway.adapters.lookup profile.adapterId = some adapter)
    (heligible : Eligible request profile adapter) : Precedes route.1.1 profile := by
  simp only [select, Checked.bind_eq_ok] at h
  obtain ⟨_, -, h⟩ := h
  have hmem : ⟨(profile, adapter), heligible⟩ ∈
      (gateway.candidates request).insertionSort fun a b ↦ Precedes a.1.1 b.1.1 := by
    rw [List.mem_insertionSort]
    exact mem_candidates.mpr ⟨hprofile, hadapter⟩
  have : Std.Total fun a b : { route : GatewayProfile × ModelAdapter //
      Eligible request route.1 route.2 } ↦ Precedes a.1.1 b.1.1 := ⟨fun _ _ ↦ precedes_total _ _⟩
  have : IsTrans { route : GatewayProfile × ModelAdapter // Eligible request route.1 route.2 }
      fun a b ↦ Precedes a.1.1 b.1.1 := ⟨fun _ _ _ ↦ precedes_trans⟩
  have hsorted := List.pairwise_insertionSort (fun a b ↦ Precedes a.1.1 b.1.1)
    (gateway.candidates request)
  split at h
  · cases h
  · rename_i first rest heq
    obtain rfl : first = route := by simpa using h
    rw [heq] at hmem hsorted
    rcases List.mem_cons.mp hmem with rfl | hmem
    · exact (precedes_total _ _).elim id id
    · exact List.rel_of_pairwise_cons hsorted hmem

/-- A lookup in entries whose values are mapped. -/
theorem lookup_map {α β γ : Type} [DecidableEq α] (f : α → β → γ) (entries : List (α × β)) (key : α) :
    (entries.map fun entry ↦ (entry.1, f entry.1 entry.2)).lookup key =
      (entries.lookup key).map (f key) := by
  induction entries with
  | nil => rfl
  | cons entry entries ih =>
    rw [List.map_cons, List.lookup_cons, List.lookup_cons, ih]
    by_cases h : key = entry.1
    · simp [h]
    · simp [beq_eq_false_iff_ne.mpr h]

/-- The candidates do not depend on what the adapters do. -/
theorem candidates_answering : (gateway.answering invocations).candidates request =
    (gateway.candidates request).map fun route ↦
      ⟨(route.1.1, { route.1.2 with invoke := invocations route.1.1.adapterId }), route.2⟩ := by
  rw [candidates, candidates, List.map_filterMap]
  refine congrArg (List.filterMap · gateway.profiles) (funext fun profile ↦ ?_)
  rw [show (gateway.answering invocations).adapters.lookup profile.adapterId =
    (gateway.adapters.lookup profile.adapterId).map fun adapter ↦
      { adapter with invoke := invocations profile.adapterId } from
    lookup_map (fun key (adapter : ModelAdapter) ↦ { adapter with invoke := invocations key }) _ _]
  cases gateway.adapters.lookup profile.adapterId with
  | none => rfl
  | some adapter =>
    simp only [Option.map_some, Option.bind_some]
    by_cases h : Eligible request profile adapter
    · rw [dif_pos h, dif_pos (show Eligible request profile { adapter with
        invoke := invocations profile.adapterId } from h)]
      rfl
    · rw [dif_neg h, dif_neg (show ¬Eligible request profile { adapter with
        invoke := invocations profile.adapterId } from h)]
      rfl

/-- **Preparation.** A route is prepared without the adapters. -/
theorem prepare_answering :
    (gateway.answering invocations).prepare request = gateway.prepare request := by
  have hsort := List.map_insertionSort
    (fun a b : { route : GatewayProfile × ModelAdapter // Eligible request route.1 route.2 } ↦
      Precedes a.1.1 b.1.1)
    (fun a b : { route : GatewayProfile × ModelAdapter // Eligible request route.1 route.2 } ↦
      Precedes a.1.1 b.1.1)
    (fun route ↦ ⟨(route.1.1, { route.1.2 with invoke := invocations route.1.1.adapterId }),
      route.2⟩) (gateway.candidates request) fun _ _ _ _ ↦ Iff.rfl
  rw [prepare, prepare, select, select, candidates_answering, ← hsort]
  cases (gateway.candidates request).insertionSort fun a b ↦ Precedes a.1.1 b.1.1 with
  | nil => rfl
  | cons route routes =>
    rw [List.map_cons]
    cases ensure (request.estimatedInputTokens ≤ request.budget.maxInputTokens)
      .requestInputBudgetExceeded "request exceeds its input-token budget" none with
    | error e => rfl
    | ok u => rfl

/-- **The gateway.** A result is that of the best of the eligible profiles, with a usage within both
layers of limits and an output that the schema describes. Whatever the adapters do, a request that is
not prepared is refused with the error of its preparation, and so is a call that is not what its
request is prepared to. -/
theorem invoke_admits (H : Host) (gateway : ModelGateway) (request : ModelRequest) :
    (∀ answer, gateway.invoke H request = .ok answer →
      ∃ profile adapter result, gateway.Admitted request answer profile adapter result) ∧
    (∀ e, gateway.prepare request = .error e → ∀ invocations,
      (gateway.answering invocations).invoke H request = .error e) ∧
    (∀ call : PreparedGatewayCall, gateway.prepare call.request ≠ .ok call →
      ∃ e, ∀ invocations, (gateway.answering invocations).invokePrepared H call = .error e) := by
  refine ⟨fun answer h ↦ ?_, fun e h invocations ↦ ?_, fun call h ↦ ?_⟩
  · obtain ⟨route, hroute, result, hresult, haffords, hvalid, -, rfl⟩ := invoke_eq_ok.mp h
    obtain ⟨hprofile, hadapter⟩ := mem_candidates.mp (mem_of_select hroute)
    exact ⟨route.1.1, route.1.2, result, hprofile, hadapter, route.2,
      fun p hp a ha ↦ precedes_of_select hroute hp ha, hresult, haffords,
      satisfies_of_validateOutput hvalid, rfl, rfl⟩
  · rw [invoke, prepare_answering, h, Checked.error_bind]
  · cases hprepare : gateway.prepare call.request with
    | error e =>
      refine ⟨e, fun invocations ↦ ?_⟩
      simp only [invokePrepared, prepare_answering, hprepare, Checked.error_bind]
    | ok expected =>
      have hne : call ≠ expected := fun heq ↦ h (heq ▸ hprepare)
      refine ⟨.admission .preparedCallInvalid
        "prepared gateway call no longer matches gateway policy" none, fun invocations ↦ ?_⟩
      simp only [invokePrepared, prepare_answering, hprepare, Checked.ok_bind, ensure,
        Checked.require, if_neg hne, Checked.error_bind]

end Admission

end ModelGateway

end Blackcell.Gateway
