import SenderPolicy.Proofs.CidrSuffix
import SenderPolicy.Proofs.ConfirmedNames
import SenderPolicy.Proofs.KeptParts
import SenderPolicy.Proofs.LeadingLabels
import SenderPolicy.Proofs.Runnable

/-! The length of the names to which terms lead. A name made by macros is cut to 253 characters, and the current domain has no
more where it began with no more. A domain-spec without macros is taken as it stands, and the check of a record lets it have up
to 255 characters; that is the only way to a longer name. -/

namespace SenderPolicy

open Dns Evaluation Text

variable {σ : Type} {answer : Question → σ → Answer × σ} {context : Context} {domain spec target : String} {w w' : World σ}

theorem Domain.length_le_of_isValid {d : String} (h : isValid d = true) : d.toList.length ≤ 255 := by
  unfold isValid at h
  simp only [Bool.and_eq_true, decide_eq_true_eq] at h
  exact h.1.1.2

/-- A single label is no domain name, so a shortened name that is one fits. -/
theorem Domain.length_le_of_isValid_shortened {limit : Int} {d : String} (h : isValid (shortened limit d) = true) :
    ((shortened limit d).toList.length : Int) ≤ limit := by
  obtain ⟨front, back, spelt, -⟩ := dot_of_isValid h
  refine (shortened_fits limit d).resolve_right fun undotted => undotted ?_
  rw [spelt]
  simp

namespace Evaluation

/-! ### The ways to a name -/

/-- The three ways to the name of a term: the current domain, the domain-spec as it stands, and what its macros stand for. -/
inductive LeadsTo (domain spec : String) : String → Prop
  | current (h : spec = "") : LeadsTo domain spec domain
  | plain (h : '%' ∉ spec.toList) : LeadsTo domain spec spec
  | expanded (h : '%' ∈ spec.toList) (name : String) : LeadsTo domain spec (Domain.shortened Domain.maxLength name)

theorem leadsTo_of_exec (h : exec answer context (targetName domain spec) w = (.ok target, w')) :
    Domain.isValid target = true ∧ LeadsTo domain spec target := by
  obtain ⟨found, w₁, expanded, checked⟩ := exec_bind_ok_iff.mp h
  have valid : Domain.isValid found = true ∧ found = target := by
    split at checked
    · rename_i valid
      exact ⟨valid, Except.ok.inj (Prod.mk.inj checked).1⟩
    · cases checked
  obtain ⟨valid, rfl⟩ := valid
  refine ⟨valid, ?_⟩
  unfold expandDomainSpec at expanded
  split at expanded
  · rename_i empty
    cases expanded
    exact .current empty
  · split at expanded
    · rename_i plain
      cases expanded
      exact .plain (by simpa using plain)
    · rename_i macros
      obtain ⟨name, w₂, -, cut⟩ := exec_bind_ok_iff.mp expanded
      cases cut
      exact .expanded (by simpa using macros) name

/-- A valid name to which a domain-spec leads has at most 253 characters, unless it is a domain-spec without macros that has
more. -/
theorem LeadsTo.length_le_iff (h : LeadsTo domain spec target) (valid : Domain.isValid target = true)
    (short : domain.toList.length ≤ 253) :
    target.toList.length ≤ 253 ↔ '%' ∈ spec.toList ∨ spec.toList.length ≤ 253 := by
  cases h with
  | current empty =>
    subst empty
    simpa using short
  | plain unmarked => exact (or_iff_right unmarked).symm
  | expanded macros name =>
    have cut : ((Domain.shortened Domain.maxLength name).toList.length : Int) ≤ 253 :=
      Domain.length_le_of_isValid_shortened valid
    exact iff_of_true (by omega) (.inl macros)

theorem length_le_iff_of_exec (short : domain.toList.length ≤ 253)
    (h : exec answer context (targetName domain spec) w = (.ok target, w')) :
    Domain.isValid target = true ∧ (target.toList.length ≤ 253 ↔ '%' ∈ spec.toList ∨ spec.toList.length ≤ 253) := by
  obtain ⟨valid, leads⟩ := leadsTo_of_exec h
  exact ⟨valid, leads.length_le_iff valid short⟩

/-- What the macros stand for is cut before it is checked. -/
theorem exec_targetName_expanded {name : String} (macros : '%' ∈ spec.toList)
    (h : exec answer context (expand false domain spec) w = (.ok name, w')) :
    exec answer context (targetName domain spec) w =
      (if Domain.isValid (Domain.shortened Domain.maxLength name) then .ok (Domain.shortened Domain.maxLength name)
        else .error (.policy (.invalidTarget (Domain.shortened Domain.maxLength name))), w') := by
  have filled : spec ≠ "" := by
    rintro rfl
    cases macros
  have marked : spec.toList.contains '%' = true := by simpa using macros
  have expanded : exec answer context (expandDomainSpec domain spec) w = (.ok (Domain.shortened Domain.maxLength name), w') := by
    unfold expandDomainSpec
    rw [if_neg filled, marked]
    exact (exec_bind_of_ok h).trans (exec_pure ..)
  unfold targetName
  rw [exec_bind_of_ok expanded]
  split <;> rfl

/-! ### The length of a name -/

/-- Where a term of a record that has been read leads somewhere, it leads to a domain name. The name has at most 253 characters
if and only if the domain-spec has macros or has itself no more; without macros the term leads to the domain-spec, or to the
current domain if that is empty, whoever answers. So the length is kept, in whatever context and world, by just the
domain-specs that have macros or at most 253 characters. -/
theorem targetName_length_le_iff {source marker record : String} {terms : List Term}
    (read : Record.read source marker record = .ok terms) {t : Term} (member : t ∈ terms) (targets : t.Targets spec)
    (valid : Domain.isValid domain = true) (short : domain.toList.length ≤ 253) (answer : Question → σ → Answer × σ)
    (context : Context) (w : World σ) :
    (∀ target w', exec answer context (targetName domain spec) w = (.ok target, w') →
      Domain.isValid target = true ∧ (target.toList.length ≤ 253 ↔ '%' ∈ spec.toList ∨ spec.toList.length ≤ 253)) ∧
    ('%' ∉ spec.toList → spec.toList.length ≤ 255 ∧
      exec answer context (targetName domain spec) w = (.ok (if spec = "" then domain else spec), w)) ∧
    ((∀ target w', exec answer context (targetName domain spec) w = (.ok target, w') →
      Domain.isValid target = true ∧ target.toList.length ≤ 253) ↔ '%' ∈ spec.toList ∨ spec.toList.length ≤ 253) := by
  have runs : Record.SpecRuns domain spec :=
    Record.specRuns_of_checked valid ((accepted_of_read read t member).checked targets)
  have plain : '%' ∉ spec.toList →
      exec answer context (targetName domain spec) w = (.ok (if spec = "" then domain else spec), w) :=
    fun unmarked => exec_targetName_plain runs (by simpa using unmarked) w
  refine ⟨fun _ _ => length_le_iff_of_exec short, fun unmarked => ⟨?_, plain unmarked⟩, fun all => ?_, ?_⟩
  · by_cases empty : spec = ""
    · simp [empty]
    · obtain ⟨named, -⟩ := length_le_iff_of_exec short (plain unmarked)
      rw [if_neg empty] at named
      exact Domain.length_le_of_isValid named
  · by_cases macros : '%' ∈ spec.toList
    · exact .inl macros
    · obtain ⟨-, within⟩ := all _ _ (plain macros)
      exact (length_le_iff_of_exec short (plain macros)).2.mp within
  · intro within target w' h
    obtain ⟨valid, length⟩ := length_le_iff_of_exec short h
    exact ⟨valid, length.mpr within⟩

/-- A client that has given a name of 51 labels and a domain, 263 characters. -/
def manyLabelsContext : Context :=
  ⟨{ clock := .whole 0 }, .v4 0xC0000205, "user", "example.com",
    String.ofList ((List.replicate 50 "abcd.".toList).flatten ++ "e.example.com".toList)⟩

/-- Two labels of the name have to go. -/
theorem targetName_manyLabels :
    let target := String.ofList ((List.replicate 48 "abcd.".toList).flatten ++ "e.example.com".toList)
    ∃ terms, Record.read "example.com" Record.defaultMarker "v=spf1 redirect=%{h}" = .ok terms ∧
      (∃ t ∈ terms, t.Targets "%{h}") ∧ Domain.isValid "example.com" = true ∧ "example.com".toList.length ≤ 253 ∧
      exec (Client.ofZone []).answers manyLabelsContext (targetName "example.com" "%{h}") (.fresh .unasked) =
        (.ok target, .fresh .unasked) ∧
      Domain.isValid target = true ∧ target.toList.length ≤ 253 := by
  intro target
  let redirect : Term := .modifier ⟨"redirect", "%{h}", "redirect=%{h}"⟩
  have read : Record.read "example.com" Record.defaultMarker "v=spf1 redirect=%{h}" = .ok [redirect] := by decide
  have targets : redirect.Targets "%{h}" := .modifier rfl
  have valid : Domain.isValid "example.com" = true := by decide
  have expanded : exec (Client.ofZone []).answers manyLabelsContext (expand false "example.com" "%{h}") (.fresh .unasked) =
      (.ok manyLabelsContext.helo, .fresh .unasked) := by
    rw [expand_plain rfl]
    rfl
  have cut : Domain.shortened Domain.maxLength manyLabelsContext.helo = target := by
    unfold Domain.shortened manyLabelsContext
    rw [String.toList_ofList, if_neg (by decide +kernel)]
    exact congrArg String.ofList (by decide +kernel)
  have named : Domain.isValid target = true := by
    unfold Domain.isValid
    rw [String.toList_ofList]
    decide +kernel
  have returns : exec (Client.ofZone []).answers manyLabelsContext (targetName "example.com" "%{h}") (.fresh .unasked) =
      (.ok target, .fresh .unasked) := by
    rw [exec_targetName_expanded (by decide) expanded, cut, if_pos named]
  obtain ⟨checked, length⟩ := (targetName_length_le_iff read List.mem_cons_self targets valid (by decide)
    (Client.ofZone []).answers manyLabelsContext (.fresh .unasked)).1 _ _ returns
  exact ⟨_, read, ⟨_, List.mem_cons_self, targets⟩, valid, by decide, returns, checked,
    length.mpr (.inl (by decide))⟩

/-! ### Long names -/

/-- Every domain name of ordinary characters can stand in a record. -/
theorem exists_read_targets (source marker : String) {name : String} (valid : Domain.isValid name = true)
    (plain : ∀ c ∈ name.toList, c ≠ '/' ∧ c ≠ '%' ∧ isBlank c = false) :
    ∃ terms, Record.read source marker ("v=spf1 " ++ (Directive.dual .a .colon name).raw) = .ok terms ∧
      ∃ t ∈ terms, t.Targets name := by
  have short : (DualCidr.given (.dual .a .colon name)).length ≤ maxDigits :=
    Record.length_le_maxDigits (Domain.length_le_of_isValid valid)
  have ordinary : ∀ c ∈ name.toList, c ≠ '/' ∧ c ≠ '\n' := fun c hc =>
    ⟨(plain c hc).1, fun h => absurd (h ▸ (plain c hc).2.2) (by decide)⟩
  have line : '\n' ∉ DualCidr.given (.dual .a .colon name) := fun h => (ordinary _ h).2 rfl
  have cut : DualCidr.Splits (DualCidr.given (.dual .a .colon name)) name.toList none none :=
    DualCidr.splits_of_not_mem fun slash => (ordinary _ slash).1 rfl
  have filled : name ≠ "" := by
    rintro rfl
    exact absurd valid (by decide)
  have present : Separator.colon ≠ .absent := nofun
  have read : Record.read source marker ("v=spf1 " ++ (Directive.dual .a .colon name).raw) =
      .ok [.directive (.dual .a .colon name)] :=
    (Record.read_dual (.inl rfl) present filled (fun c hc => (plain c hc).2) short cut).mpr
      ⟨rfl, nofun, ⟨nofun, nofun⟩, .inr (by rwa [String.ofList_toList])⟩
  have gives : DualCidr.ofDirective (.dual .a .colon name) = .ok ⟨name, none, none⟩ :=
    (DualCidr.ofDirective_ok_iff line short cut).mpr ⟨nofun, ⟨nofun, nofun⟩, by simp⟩
  refine ⟨_, read, _, List.mem_cons_self, .directive ?_⟩
  exact .cidr (.inl rfl) gives

/-- A name of 254 characters. -/
def overlongTarget : String :=
  String.ofList ("aaa.".toList ++ (List.replicate 3 (List.replicate 63 'b' ++ ['.'])).flatten ++
    List.replicate 46 'c' ++ ".example.com".toList)

/-- A record can name it, and then leads to it as it stands. -/
theorem targetName_overlongTarget :
    overlongTarget.toList.length = 254 ∧ Domain.isValid "example.com" = true ∧ "example.com".toList.length ≤ 253 ∧
      ∃ terms, Record.read "example.com" Record.defaultMarker ("v=spf1 " ++ (Directive.dual .a .colon overlongTarget).raw) =
          .ok terms ∧
        (∃ t ∈ terms, t.Targets overlongTarget) ∧
        ∀ (answer : Question → Unit → Answer × Unit) (context : Context) (w : World Unit),
          exec answer context (targetName "example.com" overlongTarget) w = (.ok overlongTarget, w) := by
  have length : overlongTarget.toList.length = 254 := by
    unfold overlongTarget
    rw [String.toList_ofList]
    decide +kernel
  have named : Domain.isValid overlongTarget = true := by
    unfold Domain.isValid overlongTarget
    rw [String.toList_ofList]
    decide +kernel
  have plain : ∀ c ∈ overlongTarget.toList, c ≠ '/' ∧ c ≠ '%' ∧ isBlank c = false := by
    have all : overlongTarget.toList.all (fun c => c ≠ '/' ∧ c ≠ '%' ∧ isBlank c = false) = true := by
      unfold overlongTarget
      rw [String.toList_ofList]
      decide +kernel
    exact fun c hc => of_decide_eq_true (List.all_eq_true.mp all c hc)
  have valid : Domain.isValid "example.com" = true := by decide
  obtain ⟨terms, read, t, member, targets⟩ := exists_read_targets "example.com" Record.defaultMarker named plain
  refine ⟨length, valid, by decide, terms, read, ⟨t, member, targets⟩, fun answer context w => ?_⟩
  have runs : Record.SpecRuns "example.com" overlongTarget :=
    Record.specRuns_of_checked valid ((accepted_of_read read t member).checked targets)
  have unmarked : overlongTarget.toList.contains '%' = false := by
    simpa using fun h => (plain '%' h).2.1 rfl
  have filled : overlongTarget ≠ "" := by
    intro empty
    rw [empty] at length
    cases length
  rw [exec_targetName_plain runs unmarked, if_neg filled]

end Evaluation

end SenderPolicy
