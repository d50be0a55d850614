import Simetro.Library.Reordering
import Simetro.Sl1.Validate

/-! The validator does not care for the order of what a scene declares: neither for that of the
entries of a section nor for that of the members of a set-like list. -/

namespace Simetro.Sl1

open Simetro.Library

section Lists

variable {first second : List String} {thingIds : IdSet}

/-- A check that yields nothing agrees in both directions where it carries over in one. -/
theorem agree_of_perm {Raw α : Type} (check : List Raw → Checked α)
    (carries : ∀ left right value, left.Perm right → check left = .ok value → check right = .ok value)
    {left right : List Raw} (perm : left.Perm right) : Agree (check left) (check right) :=
  fun value => ⟨carries left right value perm, carries right left value perm.symm⟩

theorem canonicalize_eq_ok {empty : Sl1LoadError} {duplicate : String → Sl1LoadError}
    {raw sorted : List String} {seen : IdSet} :
    canonicalize empty duplicate raw seen = .ok sorted ↔
      (∀ entry ∈ raw, isBlank entry = false ∧ entry ∉ seen) ∧ raw.Nodup ∧
        sorted = (raw.foldl (·.insert ·) seen).toList := by
  induction raw generalizing seen with
  | nil =>
    simp only [canonicalize, Except.ok.injEq, List.foldl_nil]
    constructor
    · rintro rfl
      simp
    · exact fun all => all.2.2.symm
  | cons entry rest ih =>
    simp only [canonicalize, bind_eq_ok, reject_eq_ok, ih, List.nodup_cons, List.foldl_cons]
    constructor
    · rintro ⟨_, solid, _, fresh, others, distinct, same⟩
      have unseen : entry ∉ seen := by
        simpa [← Std.ExtTreeSet.contains_iff_mem] using fresh
      refine ⟨?_, ⟨?_, distinct⟩, same⟩
      · intro other member
        rcases List.mem_cons.mp member with rfl | member
        · exact ⟨solid, unseen⟩
        · exact ⟨(others other member).1, fun present =>
            (others other member).2 (Std.ExtTreeSet.mem_insert.mpr (.inr present))⟩
      · intro repeated
        exact (others entry repeated).2 (by simp)
    · rintro ⟨every, ⟨absent, distinct⟩, same⟩
      have fresh : seen.contains entry = false := by
        simpa [← Std.ExtTreeSet.contains_iff_mem] using (every entry (by simp)).2
      refine ⟨(), (every entry (by simp)).1, (), fresh, ?_, distinct, same⟩
      intro other member
      refine ⟨(every other (by simp [member])).1, fun present => ?_⟩
      rcases Std.ExtTreeSet.mem_insert.mp present with equal | present
      · exact absent (Std.LawfulEqCmp.eq_of_compare equal ▸ member)
      · exact (every other (by simp [member])).2 present

/-- Sets collected in another order are the same. -/
theorem foldl_insert_perm (perm : first.Perm second) (seen : IdSet) :
    first.foldl (·.insert ·) seen = second.foldl (·.insert ·) seen := by
  refine perm.foldl_eq' (fun one _ other _ set => ?_) seen
  apply Std.ExtTreeSet.ext_mem
  intro entry
  simp only [Std.ExtTreeSet.mem_insert]
  exact or_left_comm

theorem canonicalize_perm (empty : Sl1LoadError) (duplicate : String → Sl1LoadError)
    (perm : first.Perm second) :
    Agree (canonicalize empty duplicate first ∅) (canonicalize empty duplicate second ∅) := by
  refine agree_of_perm (fun raw => canonicalize empty duplicate raw ∅) ?_ perm
  intro left right sorted perm accepted
  obtain ⟨every, distinct, rfl⟩ := canonicalize_eq_ok.mp accepted
  refine canonicalize_eq_ok.mpr ⟨fun entry member => every entry (perm.mem_iff.mpr member),
    perm.nodup_iff.mp distinct, ?_⟩
  rw [foldl_insert_perm perm]

theorem contains_eq_false {seen : IdSet} {entry : String} :
    seen.contains entry = false ↔ entry ∉ seen := by
  rw [← Std.ExtTreeSet.contains_iff_mem, Bool.not_eq_true]

/-- A check that takes each entry by itself and refuses one it has seen. -/
theorem check_perm {check : List String → IdSet → Checked Unit} {good : String → Prop}
    (nil : ∀ seen, check [] seen = .ok ())
    (cons : ∀ entry rest seen, check (entry :: rest) seen = .ok () ↔
      entry ∉ seen ∧ good entry ∧ check rest (seen.insert entry) = .ok ())
    (perm : first.Perm second) : Agree (check first ∅) (check second ∅) := by
  refine agree_of_perm (fun raw => check raw ∅) ?_ perm
  intro left right done perm accepted
  cases done
  have walked : ∃ moved, (check right ∅ = .ok () ∧ moved = right) ∧ moved.Perm left := by
    refine @walk_perm _ _ id (fun raw entry => good raw ∧ entry = raw)
      (fun raws seen results => check raws seen = .ok () ∧ results = raws) ?_ ?_ _ _ _ _ perm
      ⟨accepted, rfl⟩
    · simp [nil]
    · intro raw rest seen results
      rw [cons]
      constructor
      · rintro ⟨⟨fresh, fine, later⟩, rfl⟩
        exact ⟨fresh, raw, rest, ⟨fine, rfl⟩, ⟨later, rfl⟩, rfl⟩
      · rintro ⟨fresh, _, _, ⟨fine, rfl⟩, ⟨later, rfl⟩, rfl⟩
        exact ⟨⟨fresh, fine, later⟩, rfl⟩
  obtain ⟨moved, ⟨accepted, -⟩, -⟩ := walked
  exact accepted

theorem checkRequires_perm (demand : String) (perm : first.Perm second) :
    Agree (checkRequires demand thingIds first ∅) (checkRequires demand thingIds second ∅) := by
  refine @check_perm _ _ _ (fun entry => thingIds.contains entry = true) (fun _ => rfl) ?_ perm
  intro entry rest seen
  simp only [checkRequires, bind_eq_ok, reject_eq_ok, Bool.not_eq_false', contains_eq_false]
  constructor
  · rintro ⟨_, known, _, fresh, later⟩
    exact ⟨fresh, known, later⟩
  · rintro ⟨fresh, known, later⟩
    exact ⟨(), known, (), fresh, later⟩

theorem checkDependsOn_perm (dashboard : String) (perm : first.Perm second) :
    Agree (checkDependsOn dashboard thingIds first ∅) (checkDependsOn dashboard thingIds second ∅) := by
  refine @check_perm _ _ _ (fun entry => isBlank entry = false ∧ thingIds.contains entry = true)
    (fun _ => rfl) ?_ perm
  intro entry rest seen
  simp only [checkDependsOn, bind_eq_ok, reject_eq_ok, Bool.not_eq_false', Bool.or_eq_false_iff,
    contains_eq_false]
  constructor
  · rintro ⟨_, ⟨solid, fresh⟩, _, known, later⟩
    exact ⟨fresh, ⟨solid, known⟩, later⟩
  · rintro ⟨fresh, ⟨solid, known⟩, later⟩
    exact ⟨(), ⟨solid, fresh⟩, (), known, later⟩

end Lists

section Sorted

/-- The ids, without repetition, come out sorted the same. -/
theorem sortByKey_id_perm {first second : List String} (perm : first.Perm second) :
    sortByKey id first = sortByKey id second := by
  have reordered := (sortByKey_perm id first).trans (perm.trans (sortByKey_perm id second).symm)
  exact reordered.eq_of_pairwise (fun _ _ _ _ below above => le_antisymm below above)
    (sortByKey_sorted id first) (sortByKey_sorted id second)

theorem validateTransformIo_perm (transform field : String) (thingIds : IdSet)
    {first second : List RawSl1TransformIo} (perm : first.Perm second) :
    Agree (validateTransformIo transform field thingIds first)
      (validateTransformIo transform field thingIds second) := by
  refine agree_of_perm (validateTransformIo transform field thingIds) ?_ perm
  intro left right sorted perm accepted
  obtain ⟨rows, isRead, same⟩ := bind_eq_ok.mp accepted
  cases same
  let step (raw : RawSl1TransformIo) (row : Sl1TransformIo) : Prop :=
    thingIds.contains raw.thing = true ∧
      checkPositive raw.amount.toNat maxTransformAmount
        (.transformIoAmountZero transform field raw.thing)
        (.transformIoAmountOutOfRange transform field raw.thing raw.amount.toNat maxTransformAmount) =
          .ok () ∧ row = ⟨raw.thing, raw.amount.toNat⟩
  have nil (seen : IdSet) (results : List Sl1TransformIo) :
      validateIo transform field thingIds [] seen = .ok results ↔ results = [] := by
    simp [validateIo, eq_comm]
  have cons (raw : RawSl1TransformIo) (rest : List RawSl1TransformIo) (seen : IdSet)
      (results : List Sl1TransformIo) :
      validateIo transform field thingIds (raw :: rest) seen = .ok results ↔
        raw.thing ∉ seen ∧ ∃ row others, step raw row ∧
          validateIo transform field thingIds rest (seen.insert raw.thing) = .ok others ∧
            results = row :: others := by
    simp only [validateIo, bind_eq_ok, reject_eq_ok, Bool.not_eq_false', contains_eq_false]
    constructor
    · rintro ⟨_, known, _, fresh, _, positive, others, later, ⟨⟩⟩
      exact ⟨fresh, _, others, ⟨known, positive, rfl⟩, later, rfl⟩
    · rintro ⟨fresh, _, others, ⟨known, positive, rfl⟩, later, rfl⟩
      exact ⟨(), known, (), fresh, (), positive, others, later, rfl⟩
  let walk (raws : List RawSl1TransformIo) (seen : IdSet) (results : List Sl1TransformIo) : Prop :=
    validateIo transform field thingIds raws seen = .ok results
  obtain ⟨moved, rewalked, reordered⟩ := @walk_perm _ _ _ step walk nil cons _ _ _ _ perm isRead
  obtain ⟨matched, distinct, -⟩ := (@walk_iff _ _ _ step walk nil cons _ _ _).mp isRead
  have keys : rows.map (·.thingId) = left.map (·.thing) := by
    clear distinct isRead accepted perm rewalked reordered
    induction matched with
    | nil => rfl
    | cons head _ ih =>
      rw [List.map_cons, List.map_cons, ih, head.2.2]
  refine bind_eq_ok.mpr ⟨moved, rewalked, ?_⟩
  exact congrArg Except.ok (sortByKey_eq_of_perm (keys ▸ distinct) reordered.symm).symm

/-- A list that is parsed entry by entry, refusing one it has seen. -/
theorem parse_perm {Entry : Type} {parse : List String → IdSet → Checked (List Entry)}
    {step : String → Entry → Prop}
    (nil : ∀ seen results, parse [] seen = .ok results ↔ results = [])
    (cons : ∀ text rest seen results, parse (text :: rest) seen = .ok results ↔
      text ∉ seen ∧ ∃ entry others, step text entry ∧
        parse rest (seen.insert text) = .ok others ∧ results = entry :: others)
    {first second : List String} (perm : first.Perm second) :
    Matches List.Perm (parse first ∅) (parse second ∅) := by
  have carries (left right : List String) (perm : left.Perm right) (results : List Entry)
      (accepted : parse left ∅ = .ok results) :
      ∃ moved, parse right ∅ = .ok moved ∧ moved.Perm results :=
    @walk_perm _ _ id step (fun raws seen results => parse raws seen = .ok results) nil cons _ _ _ _
      perm accepted
  constructor
  · intro results accepted
    obtain ⟨moved, accepted, reordered⟩ := carries first second perm results accepted
    exact ⟨moved, accepted, reordered.symm⟩
  · intro results accepted
    obtain ⟨moved, accepted, reordered⟩ := carries second first perm.symm results accepted
    exact ⟨moved, accepted, reordered⟩

variable (scope : AgentScope) (agent : String) {first second : List String}

theorem parseScope_perm (perm : first.Perm second) :
    Matches List.Perm (parseScope scope agent first ∅) (parseScope scope agent second ∅) := by
  refine @parse_perm _ _ (fun text target => parseObservationTarget scope agent text = .ok target)
    (fun seen results => ?_) (fun text rest seen results => ?_) _ _ perm
  · simp [parseScope, eq_comm]
  · simp only [parseScope, bind_eq_ok, reject_eq_ok, contains_eq_false]
    constructor
    · rintro ⟨_, fresh, target, parsed, others, later, ⟨⟩⟩
      exact ⟨fresh, target, others, parsed, later, rfl⟩
    · rintro ⟨fresh, target, others, parsed, later, rfl⟩
      exact ⟨(), fresh, target, parsed, others, later, rfl⟩

theorem parseActions_perm (perm : first.Perm second) :
    Matches List.Perm (parseActions agent first ∅) (parseActions agent second ∅) := by
  refine @parse_perm _ _ (fun text kind => agentActionKind agent text = .ok kind)
    (fun seen results => ?_) (fun text rest seen results => ?_) _ _ perm
  · simp [parseActions, eq_comm]
  · simp only [parseActions, bind_eq_ok, reject_eq_ok, contains_eq_false]
    constructor
    · rintro ⟨_, fresh, kind, parsed, others, later, ⟨⟩⟩
      exact ⟨fresh, kind, others, parsed, later, rfl⟩
    · rintro ⟨fresh, kind, others, parsed, later, rfl⟩
      exact ⟨(), fresh, kind, parsed, others, later, rfl⟩

/-- Sorting by an order that tells entries apart forgets the order they came in. -/
theorem insertionSort_perm {Entry : Type} (before : Entry → Entry → Prop) [DecidableRel before]
    (total : ∀ one other, before one other ∨ before other one)
    (trans : ∀ one other third, before one other → before other third → before one third)
    (antisymm : ∀ one other, before one other → before other one → one = other)
    {first second : List Entry} (perm : first.Perm second) :
    first.insertionSort before = second.insertionSort before := by
  have isTotal : Std.Total before := ⟨total⟩
  have isTrans : IsTrans Entry before := ⟨trans⟩
  have reordered := (List.perm_insertionSort before first).trans
    (perm.trans (List.perm_insertionSort before second).symm)
  exact reordered.eq_of_pairwise (fun one other _ _ => antisymm one other)
    (List.pairwise_insertionSort before first) (List.pairwise_insertionSort before second)

theorem sortTargets_perm {first second : List Sl1AgentObservationTarget} (perm : first.Perm second) :
    sortTargets first = sortTargets second := by
  refine insertionSort_perm _ ?_ ?_ ?_ perm
  · intro one other
    rcases Nat.lt_trichotomy one.rank.1 other.rank.1 with less | same | more
    · exact .inl (.inl less)
    · rcases le_total one.rank.2 other.rank.2 with below | above
      · exact .inl (.inr ⟨same, below⟩)
      · exact .inr (.inr ⟨same.symm, above⟩)
    · exact .inr (.inl more)
  · rintro one other third (less | ⟨same, below⟩) (less' | ⟨same', below'⟩)
    · exact .inl (less.trans less')
    · exact .inl (same' ▸ less)
    · exact .inl (same ▸ less')
    · exact .inr ⟨same.trans same', below.trans below'⟩
  · intro one other below above
    have ranks : one.rank = other.rank := by
      rcases below with less | ⟨same, below⟩
      · rcases above with more | ⟨same, -⟩ <;> omega
      · rcases above with more | ⟨-, above⟩
        · omega
        · exact Prod.ext same (le_antisymm below above)
    cases one <;> cases other <;> simp_all [Sl1AgentObservationTarget.rank]

theorem sortActions_perm {first second : List Sl1AgentActionKind} (perm : first.Perm second) :
    sortActions first = sortActions second := by
  refine insertionSort_perm (fun left right : Sl1AgentActionKind => left.rank ≤ right.rank)
    (fun one other => le_total one.rank other.rank)
    (fun one other third below above => le_trans below above) ?_ perm
  intro one other below above
  have ranks : one.rank = other.rank := le_antisymm below above
  cases one <;> cases other <;> first | rfl | cases ranks

end Sorted

section Entries

/-- The contracts differ in the order of the required fields. -/
def ContractAlike (raw other : RawSl1ThingQualityContract) : Prop :=
  ∃ fields, raw.requiredFields.Perm fields ∧ other = { raw with requiredFields := fields }

def ThingAlike (raw other : RawSl1Thing) : Prop :=
  ∃ tags contract, raw.tags.Perm tags ∧ Option.Rel ContractAlike raw.qualityContract contract ∧
    other = { raw with tags, qualityContract := contract }

def PlaceAlike (raw other : RawSl1Place) : Prop :=
  ∃ accepts produces domains, raw.accepts.Perm accepts ∧ raw.produces.Perm produces ∧
    raw.failureDomains.Perm domains ∧
    other = { raw with accepts, produces, failureDomains := domains }

def LinkAlike (raw other : RawSl1Link) : Prop :=
  ∃ compatibility, raw.compatibility.Perm compatibility ∧ other = { raw with compatibility }

def TransformAlike (raw other : RawSl1Transform) : Prop :=
  ∃ inputs outputs, raw.inputs.Perm inputs ∧ raw.outputs.Perm outputs ∧
    other = { raw with inputs, outputs }

def DemandAlike (raw other : RawSl1Demand) : Prop :=
  ∃ requires, raw.requires.Perm requires ∧ other = { raw with requires }

def AgentAlike (raw other : RawSl1Agent) : Prop :=
  ∃ scope actions, raw.observationScope.Perm scope ∧ raw.allowedActions.Perm actions ∧
    other = { raw with observationScope := scope, allowedActions := actions }

def DashboardAlike (raw other : RawSl1Dashboard) : Prop :=
  ∃ dependsOn, raw.dependsOn.Perm dependsOn ∧ other = { raw with dependsOn }

theorem validateThingQualityContract_alike (thing : String) {raw other : RawSl1ThingQualityContract}
    (alike : ContractAlike raw other) :
    Agree (validateThingQualityContract thing raw) (validateThingQualityContract thing other) := by
  obtain ⟨fields, perm, rfl⟩ := alike
  unfold validateThingQualityContract
  refine .bind .refl fun percent => .bind .refl fun _ => .bind ?_ fun sorted => .refl
  exact canonicalize_perm _ _ perm

theorem validateThing_alike {raw other : RawSl1Thing} (alike : ThingAlike raw other) :
    Agree (validateThing raw) (validateThing other) := by
  obtain ⟨tags, contract, perm, contracts, rfl⟩ := alike
  unfold validateThing
  refine .bind .refl fun _ => .bind .refl fun _ => .bind (canonicalize_perm _ _ perm) fun sorted => ?_
  refine .bind .refl fun _ => .bind .refl fun _ => .bind ?_ fun checked => .refl
  generalize raw.qualityContract = declared at contracts ⊢
  cases contracts with
  | none => exact .refl
  | some alike => exact .bind (validateThingQualityContract_alike _ alike) fun checked => .refl

theorem validatePlace_alike {raw other : RawSl1Place} (alike : PlaceAlike raw other) :
    Agree (validatePlace raw) (validatePlace other) := by
  obtain ⟨accepts, produces, domains, accepted, produced, failing, rfl⟩ := alike
  unfold validatePlace
  refine .bind .refl fun _ => .bind .refl fun _ => .bind .refl fun _ => .bind .refl fun _ => ?_
  refine .bind .refl fun _ => .bind .refl fun _ => .bind (canonicalize_perm _ _ accepted) fun _ => ?_
  exact .bind (canonicalize_perm _ _ produced) fun _ =>
    .bind (canonicalize_perm _ _ failing) fun _ => .refl

theorem validateLink_alike (placeIds : IdSet) {raw other : RawSl1Link} (alike : LinkAlike raw other) :
    Agree (validateLink placeIds raw) (validateLink placeIds other) := by
  obtain ⟨compatibility, perm, rfl⟩ := alike
  unfold validateLink
  refine .bind .refl fun _ => .bind .refl fun _ => .bind .refl fun _ => .bind .refl fun _ => ?_
  refine .bind .refl fun _ => .bind .refl fun _ => .bind .refl fun _ => .bind .refl fun _ => ?_
  refine .bind .refl fun _ => .bind .refl fun _ => .bind ?_ fun sorted => .refl
  exact canonicalize_perm _ _ perm

theorem validateTransform_alike (places : IdMap Sl1Place) (thingIds : IdSet)
    {raw other : RawSl1Transform} (alike : TransformAlike raw other) :
    Agree (validateTransform places thingIds raw) (validateTransform places thingIds other) := by
  obtain ⟨inputs, outputs, read, written, rfl⟩ := alike
  unfold validateTransform
  refine .bind .refl fun _ => .bind .refl fun _ => .bind .refl fun place => ?_
  refine .bind (validateTransformIo_perm _ _ _ read) fun _ => ?_
  simp only [← written.isEmpty_eq]
  exact .bind .refl fun _ => .bind (validateTransformIo_perm _ _ _ written) fun _ => .refl

theorem validateDemand_alike (placeIds thingIds : IdSet) {raw other : RawSl1Demand}
    (alike : DemandAlike raw other) :
    Agree (validateDemand placeIds thingIds raw) (validateDemand placeIds thingIds other) := by
  obtain ⟨requires, perm, rfl⟩ := alike
  unfold validateDemand
  refine .bind .refl fun _ => .bind .refl fun _ => .bind .refl fun target => ?_
  refine .bind ?_ fun _ => .refl
  unfold validateDemandRequires
  simp only [← perm.isEmpty_eq, ← perm.length_eq, sortByKey_id_perm perm]
  exact .bind .refl fun _ => .bind .refl fun _ => .bind (checkRequires_perm _ perm) fun _ => .refl

theorem validateDashboard_alike (thingIds : IdSet) {raw other : RawSl1Dashboard}
    (alike : DashboardAlike raw other) :
    Agree (validateDashboard thingIds raw) (validateDashboard thingIds other) := by
  obtain ⟨dependsOn, perm, rfl⟩ := alike
  unfold validateDashboard
  simp only [sortByKey_id_perm perm]
  exact .bind .refl fun _ => .bind .refl fun _ => .bind .refl fun _ =>
    .bind (checkDependsOn_perm _ perm) fun _ => .refl

theorem validateAgent_alike (scope : AgentScope) {raw other : RawSl1Agent}
    (alike : AgentAlike raw other) : Agree (validateAgent scope raw) (validateAgent scope other) := by
  obtain ⟨watched, allowed, seen, acts, rfl⟩ := alike
  unfold validateAgent
  simp only [← seen.length_eq, ← acts.length_eq]
  refine .bind .refl fun _ => .bind .refl fun kind => .bind .refl fun _ => .bind .refl fun _ => ?_
  refine .bind .refl fun _ => .bind .refl fun _ => .bind .refl fun _ => ?_
  refine (parseScope_perm scope raw.id seen).bind fun targets others targetsPerm => ?_
  refine (parseActions_perm raw.id acts).bind fun kinds otherKinds kindsPerm => ?_
  rw [sortTargets_perm targetsPerm, sortActions_perm kindsPerm]
  exact .refl

end Entries

section Scenes

/-- The entries of a section in another order, each one as it was. -/
abbrev Shuffled {Raw : Type} (first second : List Raw) : Prop := Reordered Eq first second

structure ObservabilityAlike (raw other : RawSl1Observability) : Prop where
  metrics : Shuffled raw.metrics other.metrics
  dashboards : Reordered DashboardAlike raw.dashboards other.dashboards
  alerts : Shuffled raw.alerts other.alerts

/-- Scenes that differ in the order of the entries within each section and in the order of the
members within each set-like list. -/
structure SceneAlike (raw other : RawSl1Scene) : Prop where
  schemaVersion : raw.schemaVersion = other.schemaVersion
  places : Reordered PlaceAlike raw.places other.places
  links : Reordered LinkAlike raw.links other.links
  things : Reordered ThingAlike raw.things other.things
  transforms : Reordered TransformAlike raw.transforms other.transforms
  demand : Reordered DemandAlike raw.demand other.demand
  pressure : Shuffled raw.pressure other.pressure
  objectives : Shuffled raw.objectives other.objectives
  failureConditions : Shuffled raw.failureConditions other.failureConditions
  victoryConditions : Shuffled raw.victoryConditions other.victoryConditions
  agents : Reordered AgentAlike raw.agents other.agents
  observability : Option.Rel ObservabilityAlike raw.observability other.observability
  milestones : Shuffled raw.milestones other.milestones
  extra : raw.extra = other.extra

/-- A section whose entries are only shuffled. -/
theorem catalog_shuffled {Raw Entry : Type} {read : Raw → Checked Entry} {key : Entry → String}
    {duplicate : Entry → Sl1LoadError} {crossCheck : Entry → Checked Unit} {raws others : List Raw}
    (shuffled : Shuffled raws others) :
    Agree (catalog read key duplicate crossCheck raws)
      (catalog read key duplicate crossCheck others) := by
  have reads (raw other : Raw) (same : raw = other) : Agree (read raw) (read other) := same ▸ .refl
  exact catalog_reordered reads shuffled

theorem validateObservability_alike (places : List Sl1Place) (thingIds : IdSet)
    {raw other : RawSl1Observability} (alike : ObservabilityAlike raw other) :
    Agree (validateObservability places thingIds raw) (validateObservability places thingIds other) := by
  unfold validateObservability
  rw [alike.metrics.length_eq, alike.dashboards.length_eq, alike.alerts.length_eq]
  refine .bind .refl fun _ => .bind .refl fun _ => .bind .refl fun _ => ?_
  refine .bind (catalog_reordered (fun _ _ => validateDashboard_alike thingIds) alike.dashboards)
    fun dashboards => ?_
  exact .bind (catalog_shuffled alike.metrics) fun metrics =>
    .bind (catalog_shuffled alike.alerts) fun alerts => .refl

variable {raw other : RawSl1Scene}

theorem checkShape_alike (alike : SceneAlike raw other) : checkShape raw = checkShape other := by
  unfold checkShape
  rw [alike.schemaVersion, alike.extra, alike.places.length_eq, alike.links.length_eq,
    alike.things.length_eq, alike.transforms.length_eq, alike.demand.length_eq,
    alike.pressure.length_eq, alike.objectives.length_eq, alike.failureConditions.length_eq,
    alike.victoryConditions.length_eq, alike.agents.length_eq, alike.milestones.length_eq]

/-- The validator accepts a scene in any order exactly when it accepts it in another, and returns
the same scene. -/
theorem validate_alike (alike : SceneAlike raw other) (scene : Sl1Scene) :
    validate raw = .ok scene ↔ validate other = .ok scene := by
  revert scene
  change Agree (validate raw) (validate other)
  unfold validate
  rw [checkShape_alike alike, alike.schemaVersion]
  refine .bind .refl fun _ => ?_
  refine .bind (catalog_reordered (fun _ _ => validateThing_alike) alike.things) fun things => ?_
  refine .bind (catalog_reordered (fun _ _ => validatePlace_alike) alike.places) fun places => ?_
  refine .bind (catalog_reordered (fun _ _ => validateLink_alike _) alike.links) fun links => ?_
  refine .bind (catalog_reordered (fun _ _ => validateTransform_alike _ _) alike.transforms)
    fun transforms => ?_
  refine .bind (catalog_reordered (fun _ _ => validateDemand_alike _ _) alike.demand)
    fun demand => ?_
  refine .bind (catalog_shuffled alike.pressure) fun pressure => ?_
  refine .bind (catalog_shuffled alike.objectives) fun objectives => ?_
  refine .bind (catalog_shuffled alike.failureConditions) fun failures => ?_
  refine .bind (catalog_shuffled alike.victoryConditions) fun victories => ?_
  refine .bind ?_ fun observability => ?_
  · have declared := alike.observability
    generalize raw.observability = first at declared ⊢
    generalize other.observability = second at declared ⊢
    cases declared with
    | none => exact .refl
    | some alike => exact .bind (validateObservability_alike _ _ alike) fun checked => .refl
  · refine .bind (catalog_reordered (fun _ _ => validateAgent_alike _) alike.agents) fun agents => ?_
    exact .bind (catalog_shuffled alike.milestones) fun milestones => .refl

/-- A shop that deals in materials, with the materials in the given order throughout. -/
def tradingScene (materials : List String) : RawSl1Scene where
  places := [{
    id := "shop", role := "sink", pos := (0, 0), accepts := materials, produces := materials
    capacity := (∅ : IdMap UInt64).insert "hands" 2 }]
  things := materials.map fun name => { id := name, kind := "material", tags := materials }
  transforms := [{
    id := "forge", kind := "craft", runsOn := "shop", inputs := materials.map (⟨·, 1⟩)
    outputs := materials.map (⟨·, 2⟩), cadenceTicks := 2, durationTicks := 1, deadlineTicks := 4
    failurePolicy := "drop" }]
  demand := [{
    id := "orders", kind := "job", target := ⟨"place", "shop"⟩, requires := materials
    spawnSchedule := { kind := "fixed", everyTicks := some 2, startTick := some 1 }
    deadlineTicks := 9, priority := "normal", value := 5, penalty := { score := -2 } }]
  observability := some {
    dashboards := [{ id := "feed", kind := "live", dependsOn := materials, freshnessSloTicks := 1 }] }

theorem tradingScene_alike {first second : List String} (perm : first.Perm second) :
    SceneAlike (tradingScene first) (tradingScene second) where
  schemaVersion := rfl
  places := ⟨_, .cons ⟨_, _, _, perm, perm, .refl _, rfl⟩ .nil, .refl _⟩
  links := .of_perm (fun _ => ⟨_, .refl _, rfl⟩) .nil
  things := by
    refine ⟨first.map fun name => { id := name, kind := "material", tags := second }, ?_, perm.map _⟩
    change List.Forall₂ ThingAlike
      (first.map fun name => { id := name, kind := "material", tags := first }) _
    rw [List.forall₂_map_left_iff, List.forall₂_map_right_iff, List.forall₂_same]
    exact fun name _ => ⟨second, none, perm, .none, rfl⟩
  transforms := ⟨_, .cons ⟨_, _, perm.map _, perm.map _, rfl⟩ .nil, .refl _⟩
  demand := ⟨_, .cons ⟨_, perm, rfl⟩ .nil, .refl _⟩
  pressure := .of_perm (fun _ => rfl) .nil
  objectives := .of_perm (fun _ => rfl) .nil
  failureConditions := .of_perm (fun _ => rfl) .nil
  victoryConditions := .of_perm (fun _ => rfl) .nil
  agents := .of_perm (fun _ => ⟨_, _, .refl _, .refl _, rfl⟩) .nil
  observability := .some {
    metrics := .of_perm (fun _ => rfl) .nil
    dashboards := ⟨_, .cons ⟨_, perm, rfl⟩ .nil, .refl _⟩
    alerts := .of_perm (fun _ => rfl) .nil }
  milestones := .of_perm (fun _ => rfl) .nil
  extra := rfl

theorem validate_alike_trading : ∃ scene, validate (tradingScene ["ore", "coal"]) = .ok scene ∧
    validate (tradingScene ["coal", "ore"]) = .ok scene := by
  have accepts : yields (validate (tradingScene ["ore", "coal"])) (fun _ => true) = true := by
    decide +kernel
  obtain ⟨scene, accepted, -⟩ := yields_iff.mp accepts
  exact ⟨scene, accepted, (validate_alike (tradingScene_alike (.swap "coal" "ore" [])) scene).mp accepted⟩

end Scenes

end Simetro.Sl1
