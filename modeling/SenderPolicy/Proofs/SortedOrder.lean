import Mathlib.Data.List.Perm.Basic
import SenderPolicy.Dns.Lookup
import SenderPolicy.Proofs.Pieces

/-! Sorted lists do not depend on the order of their elements, if the elements that may stand beside each other are the
same. So the addresses of a name and its mail hosts come in one order, whatever the order of the records. -/

namespace SenderPolicy

open Dns Text

variable {α β ε : Type}

/-! ### Sorting -/

/-- A linear order on the elements of lists. -/
structure LinearlyOrders (le : α → α → Bool) : Prop where
  total : ∀ x y, le x y = true ∨ le y x = true
  trans : ∀ x y z, le x y = true → le y z = true → le x z = true
  antisymm : ∀ x y, le x y = true → le y x = true → x = y

namespace LinearlyOrders

variable {le : α → α → Bool}

theorem le_of_not (h : LinearlyOrders le) {x y : α} (hxy : le x y = false) : le y x = true :=
  (h.total x y).resolve_left (by simp [hxy])

/-- Two elements may be inserted in either order. -/
theorem insertSorted_comm (h : LinearlyOrders le) (x y : α) (l : List α) :
    insertSorted le y (insertSorted le x l) = insertSorted le x (insertSorted le y l) := by
  induction l with
  | nil =>
    cases hxy : le x y <;> cases hyx : le y x
    · exact absurd (h.le_of_not hxy) (by simp [hyx])
    · simp [insertSorted, hxy, hyx]
    · simp [insertSorted, hxy, hyx]
    · rw [h.antisymm x y hxy hyx]
  | cons z rest ih =>
    cases hxz : le x z <;> cases hyz : le y z
    · simp [insertSorted, hxz, hyz, ih]
    · -- the element that precedes the head also precedes the one that does not
      have hyx : le y x = true := h.trans y z x hyz (h.le_of_not hxz)
      have hxy : le x y = false := by
        by_contra hc
        rw [h.antisymm x y (by simpa using hc) hyx, hyz] at hxz
        cases hxz
      simp [insertSorted, hxz, hyz, hxy]
    · have hxy : le x y = true := h.trans x z y hxz (h.le_of_not hyz)
      have hyx : le y x = false := by
        by_contra hc
        rw [h.antisymm y x (by simpa using hc) hxy, hxz] at hyz
        cases hyz
      simp [insertSorted, hxz, hyz, hyx]
    · cases hxy : le x y <;> cases hyx : le y x
      · exact absurd (h.le_of_not hxy) (by simp [hyx])
      · simp [insertSorted, hxz, hyz, hxy, hyx]
      · simp [insertSorted, hxz, hyz, hxy, hyx]
      · rw [h.antisymm x y hxy hyx]

/-- The order of the elements makes no difference to the sorted list. -/
theorem sorted_eq_of_perm (h : LinearlyOrders le) {xs ys : List α} (hp : xs.Perm ys) : sorted le xs = sorted le ys :=
  hp.foldr_eq' (fun x _ y _ l => h.insertSorted_comm x y l) []

end LinearlyOrders

/-! ### Orders -/

theorem textLE_iff {a b : String} : textLE a b = true ↔ a ≤ b := by
  unfold textLE
  rw [Bool.not_eq_true', decide_eq_false_iff_not]
  exact String.not_lt

theorem textLE_linearlyOrders : LinearlyOrders textLE where
  total x y := by
    rw [textLE_iff, textLE_iff]
    exact String.le_total x y
  trans x y z hxy hyz := textLE_iff.mpr (String.le_trans (textLE_iff.mp hxy) (textLE_iff.mp hyz))
  antisymm x y hxy hyx := String.le_antisymm (textLE_iff.mp hxy) (textLE_iff.mp hyx)

theorem MailHost.le_iff {a b : MailHost} :
    MailHost.le a b = true ↔ a.preference < b.preference ∨ a.preference = b.preference ∧ a.hostname ≤ b.hostname := by
  simp [MailHost.le, textLE_iff]

theorem mailHost_linearlyOrders : LinearlyOrders MailHost.le where
  total x y := by
    rw [MailHost.le_iff, MailHost.le_iff]
    rcases Int.lt_trichotomy x.preference y.preference with less | same | more
    · exact .inl (.inl less)
    · exact (String.le_total x.hostname y.hostname).imp (fun h => .inr ⟨same, h⟩) fun h => .inr ⟨same.symm, h⟩
    · exact .inr (.inl more)
  trans x y z hxy hyz := by
    rw [MailHost.le_iff] at hxy hyz ⊢
    rcases hxy with hxy | ⟨hxy, hn⟩ <;> rcases hyz with hyz | ⟨hyz, hn'⟩
    · exact .inl (by omega)
    · exact .inl (by omega)
    · exact .inl (by omega)
    · exact .inr ⟨by omega, String.le_trans hn hn'⟩
  antisymm x y hxy hyx := by
    rw [MailHost.le_iff] at hxy hyx
    have same : x.preference = y.preference := by omega
    have names : x.hostname = y.hostname :=
      String.le_antisymm (hxy.resolve_left (by omega)).2 (hyx.resolve_left (by omega)).2
    cases x
    cases y
    cases same
    cases names
    rfl

/-! ### Mail hosts -/

/-- Readers of elements give the same values in another order. -/
theorem mapM_perm {f : α → Except ε β} {xs ys : List α} (hp : xs.Perm ys) {found : List β} (h : xs.mapM f = .ok found) :
    ∃ found', ys.mapM f = .ok found' ∧ found'.Perm found := by
  obtain ⟨found', hf, same⟩ := List.perm_comp_forall₂ hp.symm (mapM_ok_iff.mp h)
  exact ⟨found', mapM_ok_iff.mpr hf, same⟩

/-- That mail hosts cannot be read does not mean that there is no domain. -/
theorem readMailHosts_error_ne {texts : List String} {e : LookupError} (h : readMailHosts texts = .error e) :
    e ≠ .noSuchDomain := by
  unfold readMailHosts at h
  split at h
  · cases h
  · cases hr : texts.mapM MailHost.ofText with
    | ok found =>
      rw [hr] at h
      cases h
    | error e' =>
      rw [hr] at h
      cases h
      obtain ⟨text, -, he⟩ := exists_error_of_mapM hr
      unfold MailHost.ofText at he
      split at he
      · split at he <;> cases he <;> exact nofun
      · cases he
        exact nofun

/-- The order of the records makes no difference to mail hosts, except for which of several errors is met. -/
theorem readMailHosts_of_perm {texts texts' : List String} (h : texts.Perm texts') :
    readMailHosts texts = readMailHosts texts' ∨
      (∃ text ∈ texts, ∀ host, MailHost.ofText text ≠ .ok host) ∧
        ∃ e e', readMailHosts texts = .error e ∧ readMailHosts texts' = .error e' := by
  by_cases hn : texts = ["0 "]
  · subst hn
    rw [← List.singleton_perm.mp h]
    exact .inl rfl
  · have hn' : texts' ≠ ["0 "] := by
      rintro rfl
      exact hn (List.perm_singleton.mp h)
    unfold readMailHosts
    rw [if_neg hn, if_neg hn']
    cases hr : texts.mapM MailHost.ofText with
    | ok found =>
      obtain ⟨found', hr', same⟩ := mapM_perm h hr
      rw [hr']
      exact .inl (congrArg Except.ok (mailHost_linearlyOrders.sorted_eq_of_perm same.symm))
    | error e =>
      cases hr' : texts'.mapM MailHost.ofText with
      | ok found' =>
        obtain ⟨found, hr'', -⟩ := mapM_perm h.symm hr'
        rw [hr] at hr''
        cases hr''
      | error e' =>
        obtain ⟨text, hm, he⟩ := exists_error_of_mapM hr
        exact .inr ⟨⟨text, hm, fun host ho => by rw [he] at ho; cases ho⟩, e, e', rfl, rfl⟩

-- which of two unreadable records comes first decides on the error
example : readMailHosts ["x", "5"] ≠ readMailHosts ["5", "x"] := by decide

end SenderPolicy
