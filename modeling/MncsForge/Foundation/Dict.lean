import Mathlib

/-!
# Dictionaries kept in key order

A dictionary is a list of entries whose keys increase strictly.  Two such
lists with the same lookups are the same list, so extensional equality of
dictionaries is equality of terms.
-/

namespace MncsForge.Foundation

abbrev Dict (κ α : Type*) := List (κ × α)

namespace Dict

variable {κ α : Type*} [LinearOrder κ]

def keys (d : Dict κ α) : List κ := d.map Prod.fst

def Ordered (d : Dict κ α) : Prop := (keys d).Pairwise (· < ·)

def get? : Dict κ α → κ → Option α
  | [], _ => none
  | (key, value) :: rest, k => if k = key then some value else get? rest k

def set : Dict κ α → κ → α → Dict κ α
  | [], k, v => [(k, v)]
  | (key, value) :: rest, k, v =>
      if k < key then (k, v) :: (key, value) :: rest
      else if k = key then (k, v) :: rest
      else (key, value) :: set rest k v

def erase (d : Dict κ α) (k : κ) : Dict κ α :=
  d.filter fun entry => entry.1 ≠ k

/-- Write every entry of `e` over `d`. -/
def update (d e : Dict κ α) : Dict κ α :=
  e.foldl (fun acc entry => set acc entry.1 entry.2) d

/-! ## Lookup -/

omit [LinearOrder κ] in
@[simp] theorem keys_nil : keys ([] : Dict κ α) = [] := rfl

omit [LinearOrder κ] in
@[simp] theorem keys_cons (entry : κ × α) (d : Dict κ α) :
    keys (entry :: d) = entry.1 :: keys d := rfl

@[simp] theorem get?_nil (k : κ) : get? ([] : Dict κ α) k = none := rfl

theorem get?_cons (key : κ) (value : α) (d : Dict κ α) (k : κ) :
    get? ((key, value) :: d) k = if k = key then some value else get? d k := rfl

theorem get?_eq_none_iff {d : Dict κ α} {k : κ} :
    get? d k = none ↔ k ∉ keys d := by
  induction d with
  | nil => simp
  | cons entry d ih =>
      obtain ⟨key, value⟩ := entry
      by_cases h : k = key
      · simp [get?_cons, h]
      · simp [get?_cons, h, ih]

theorem get?_isSome_iff {d : Dict κ α} {k : κ} :
    (get? d k).isSome ↔ k ∈ keys d := by
  rw [← not_iff_not, Option.not_isSome_iff_eq_none, get?_eq_none_iff]

theorem mem_of_get?_eq_some {d : Dict κ α} {k : κ} {v : α}
    (h : get? d k = some v) : (k, v) ∈ d := by
  induction d with
  | nil => simp at h
  | cons entry d ih =>
      obtain ⟨key, value⟩ := entry
      rw [get?_cons] at h
      split at h
      · rename_i hkey
        cases h
        simp [hkey]
      · exact List.mem_cons_of_mem _ (ih h)

/-! ## Order -/

theorem Ordered.tail {entry : κ × α} {d : Dict κ α}
    (h : Ordered (entry :: d)) : Ordered d :=
  (List.pairwise_cons.mp h).2

theorem Ordered.head_lt {entry : κ × α} {d : Dict κ α}
    (h : Ordered (entry :: d)) {k : κ} (hk : k ∈ keys d) : entry.1 < k :=
  (List.pairwise_cons.mp h).1 k hk

theorem Ordered.head_notMem {entry : κ × α} {d : Dict κ α}
    (h : Ordered (entry :: d)) : entry.1 ∉ keys d :=
  fun hk => lt_irrefl _ (h.head_lt hk)

@[simp] theorem ordered_nil : Ordered ([] : Dict κ α) := List.Pairwise.nil

theorem get?_eq_some_of_mem {d : Dict κ α} (hd : Ordered d) {k : κ} {v : α}
    (h : (k, v) ∈ d) : get? d k = some v := by
  induction d with
  | nil => simp at h
  | cons entry d ih =>
      rcases List.mem_cons.mp h with rfl | htail
      · simp [get?_cons]
      · have hkey : k ∈ keys d := List.mem_map_of_mem (f := Prod.fst) htail
        have hne : k ≠ entry.1 := fun heq => by
          rw [heq] at hkey
          exact hd.head_notMem hkey
        rw [show entry = (entry.1, entry.2) from rfl, get?_cons, if_neg hne]
        exact ih hd.tail htail

theorem forall_mem_iff {d : Dict κ α} (hd : Ordered d) {p : κ → α → Prop} :
    (∀ entry ∈ d, p entry.1 entry.2) ↔ ∀ k v, get? d k = some v → p k v := by
  constructor
  · exact fun h k v hget => h (k, v) (mem_of_get?_eq_some hget)
  · rintro h ⟨k, v⟩ hmem
    exact h k v (get?_eq_some_of_mem hd hmem)

/-- Ordered dictionaries are extensional. -/
theorem Ordered.ext {d e : Dict κ α} (hd : Ordered d) (he : Ordered e)
    (h : ∀ k, get? d k = get? e k) : d = e := by
  induction d generalizing e with
  | nil =>
      cases e with
      | nil => rfl
      | cons entry e =>
          obtain ⟨key, value⟩ := entry
          have := h key
          simp [get?_cons] at this
  | cons first d ih =>
      obtain ⟨k₁, v₁⟩ := first
      cases e with
      | nil =>
          have := h k₁
          simp [get?_cons] at this
      | cons second e =>
          obtain ⟨k₂, v₂⟩ := second
          have hkeys : k₁ = k₂ := by
            have mem₁ : k₁ ∈ keys ((k₂, v₂) :: e) := by
              rw [← get?_isSome_iff, ← h k₁]
              simp [get?_cons]
            have mem₂ : k₂ ∈ keys ((k₁, v₁) :: d) := by
              rw [← get?_isSome_iff, h k₂]
              simp [get?_cons]
            rcases List.mem_cons.mp mem₁ with heq | hlt
            · exact heq
            rcases List.mem_cons.mp mem₂ with heq | hgt
            · exact heq.symm
            exact absurd (he.head_lt hlt) (lt_asymm (hd.head_lt hgt))
          subst hkeys
          have hvalue : v₁ = v₂ := by
            have := h k₁
            simpa [get?_cons] using this
          subst hvalue
          congr 1
          refine ih hd.tail he.tail fun k => ?_
          by_cases hk : k = k₁
          · subst hk
            rw [get?_eq_none_iff.mpr hd.head_notMem,
              get?_eq_none_iff.mpr he.head_notMem]
          · have := h k
            simpa [get?_cons, hk] using this

/-! ## Updates -/

theorem get?_set (d : Dict κ α) (k k' : κ) (v : α) :
    get? (set d k v) k' = if k' = k then some v else get? d k' := by
  induction d with
  | nil => rfl
  | cons entry d ih =>
      obtain ⟨key, value⟩ := entry
      by_cases hlt : k < key
      · simp only [set, if_pos hlt, get?_cons]
      · by_cases heq : k = key
        · subst heq
          simp only [set, if_neg hlt, if_pos, get?_cons]
          split_ifs <;> rfl
        · simp only [set, if_neg hlt, if_neg heq, get?_cons, ih]
          by_cases hk : k' = key
          · subst hk
            rw [if_pos rfl, if_neg (Ne.symm heq), if_pos rfl]
          · rw [if_neg hk, if_neg hk]

theorem mem_keys_set {d : Dict κ α} {k k' : κ} {v : α} :
    k' ∈ keys (set d k v) ↔ k' = k ∨ k' ∈ keys d := by
  rw [← get?_isSome_iff, get?_set, ← get?_isSome_iff]
  by_cases h : k' = k <;> simp [h]

theorem Ordered.set {d : Dict κ α} (hd : Ordered d) (k : κ) (v : α) :
    Ordered (set d k v) := by
  induction d with
  | nil => simp [Dict.set, Ordered]
  | cons entry d ih =>
      obtain ⟨key, value⟩ := entry
      simp only [Dict.set]
      split_ifs with hlt heq
      · refine List.pairwise_cons.mpr ⟨fun k' hk' => ?_, hd⟩
        rcases List.mem_cons.mp hk' with rfl | hk'
        · exact hlt
        · exact hlt.trans (hd.head_lt hk')
      · subst heq
        exact hd
      · refine List.pairwise_cons.mpr ⟨fun k' hk' => ?_, ih hd.tail⟩
        rcases mem_keys_set.mp hk' with rfl | hk'
        · exact lt_of_le_of_ne (not_lt.mp hlt) (Ne.symm heq)
        · exact hd.head_lt hk'

omit [LinearOrder κ] in
theorem keys_filter_sublist (d : Dict κ α) (p : κ × α → Bool) :
    (keys (d.filter p)).Sublist (keys d) :=
  List.filter_sublist.map _

theorem Ordered.filter {d : Dict κ α} (hd : Ordered d) (p : κ × α → Bool) :
    Ordered (d.filter p) :=
  hd.sublist (keys_filter_sublist d p)

theorem get?_filter_key (d : Dict κ α) (p : κ → Bool) (k : κ) :
    get? (d.filter fun entry => p entry.1) k =
      if p k then get? d k else none := by
  induction d with
  | nil => simp
  | cons entry d ih =>
      obtain ⟨key, value⟩ := entry
      rw [List.filter_cons]
      by_cases hp : p key
      · rw [if_pos hp, get?_cons, get?_cons, ih]
        by_cases hk : k = key
        · simp [hk, hp]
        · simp [hk]
      · rw [if_neg hp, ih, get?_cons]
        by_cases hk : k = key
        · simp [hk, hp]
        · simp [hk]

theorem get?_erase (d : Dict κ α) (k k' : κ) :
    get? (erase d k) k' = if k' = k then none else get? d k' := by
  have := get?_filter_key d (fun key => decide (key ≠ k)) k'
  simp only [erase]
  rw [this]
  by_cases h : k' = k <;> simp [h]

theorem erase_of_notMem {d : Dict κ α} {k : κ} (hk : k ∉ keys d) : erase d k = d := by
  refine List.filter_eq_self.mpr fun entry hentry => ?_
  have : entry.1 ∈ keys d := List.mem_map_of_mem (f := Prod.fst) hentry
  simp only [decide_eq_true_eq]
  rintro rfl
  exact hk this

/-- Erasing a key that was just written leaves what was there before it. -/
theorem erase_set_of_notMem {d : Dict κ α} (hd : Ordered d) {k : κ} (hk : k ∉ keys d)
    (v : α) : erase (set d k v) k = d := by
  refine ((hd.set k v).filter _).ext hd fun k' => ?_
  rw [← erase, get?_erase, get?_set]
  by_cases h : k' = k
  · rw [if_pos h, h, get?_eq_none_iff.mpr hk]
  · rw [if_neg h, if_neg h]

theorem eq_of_erase_eq {d e : Dict κ α} (hd : Ordered d) (he : Ordered e) {k : κ}
    (rest : erase d k = erase e k) (value : get? d k = get? e k) : d = e := by
  refine hd.ext he fun k' => ?_
  by_cases hk : k' = k
  · rw [hk, value]
  · have := congrArg (fun d => get? d k') rest
    simpa only [get?_erase, if_neg hk] using this

theorem Ordered.erase {d : Dict κ α} (hd : Ordered d) (k : κ) :
    Ordered (erase d k) :=
  hd.filter _

@[simp] theorem update_nil (d : Dict κ α) : update d [] = d := rfl

theorem update_cons (d : Dict κ α) (entry : κ × α) (e : Dict κ α) :
    update d (entry :: e) = update (set d entry.1 entry.2) e := rfl

theorem Ordered.update {d : Dict κ α} (hd : Ordered d) (e : Dict κ α) :
    Ordered (update d e) := by
  induction e generalizing d with
  | nil => exact hd
  | cons entry e ih => exact ih (hd.set entry.1 entry.2)

theorem get?_update {e : Dict κ α} (he : Ordered e) (d : Dict κ α) (k : κ) :
    get? (update d e) k = (get? e k).or (get? d k) := by
  induction e generalizing d with
  | nil => simp
  | cons entry e ih =>
      obtain ⟨key, value⟩ := entry
      rw [update_cons, ih he.tail, get?_set, get?_cons]
      by_cases hk : k = key
      · subst hk
        rw [get?_eq_none_iff.mpr he.head_notMem]
        simp
      · simp [hk]

/-- A later entry with the same key is the only way for an update to lose one. -/
theorem get?_update_of_nodup {e : Dict κ α} (he : (keys e).Nodup) (d : Dict κ α) (k : κ) :
    get? (update d e) k = (get? e k).or (get? d k) := by
  induction e generalizing d with
  | nil => simp
  | cons entry e ih =>
      obtain ⟨key, value⟩ := entry
      obtain ⟨hkey, he⟩ := List.nodup_cons.mp he
      rw [update_cons, ih he, get?_set, get?_cons]
      by_cases hk : k = key
      · subst hk
        rw [get?_eq_none_iff.mpr hkey]
        simp
      · simp [hk]

theorem get?_eq_some_of_mem_of_nodup {d : Dict κ α} (hd : (keys d).Nodup) {k : κ} {v : α}
    (h : (k, v) ∈ d) : get? d k = some v := by
  induction d with
  | nil => simp at h
  | cons entry d ih =>
      obtain ⟨key, value⟩ := entry
      obtain ⟨hkey, hd⟩ := List.nodup_cons.mp hd
      rcases List.mem_cons.mp h with heq | htail
      · obtain ⟨rfl, rfl⟩ := Prod.mk.inj heq
        simp [get?_cons]
      · have hmem : k ∈ keys d := List.mem_map_of_mem (f := Prod.fst) htail
        have hne : k ≠ key := by
          rintro rfl
          exact hkey hmem
        rw [get?_cons, if_neg hne]
        exact ih hd htail

/-- Sorting a list of entries with distinct keys. -/
theorem update_nil_perm {e : Dict κ α} (he : (keys e).Nodup) : (update [] e).Perm e := by
  have ordered : Ordered (update [] e) := Ordered.update ordered_nil e
  have nodup : (keys (update [] e)).Nodup := ordered.imp ne_of_lt
  refine (List.perm_ext_iff_of_nodup nodup.of_map he.of_map).mpr fun entry => ?_
  obtain ⟨key, value⟩ := entry
  constructor
  · intro h
    have hget := get?_eq_some_of_mem ordered h
    rw [get?_update_of_nodup he, get?_nil, Option.or_none] at hget
    exact mem_of_get?_eq_some hget
  · intro h
    refine mem_of_get?_eq_some ?_
    rw [get?_update_of_nodup he, get?_eq_some_of_mem_of_nodup he h, Option.some_or]

theorem mem_keys_update {d e : Dict κ α} {k : κ} :
    k ∈ keys (update d e) ↔ k ∈ keys e ∨ k ∈ keys d := by
  induction e generalizing d with
  | nil => simp
  | cons entry e ih =>
      rw [update_cons, ih, mem_keys_set, keys_cons, List.mem_cons]
      tauto

theorem get?_map (d : Dict κ α) {β : Type*} (f : α → β) (k : κ) :
    get? (d.map fun entry => (entry.1, f entry.2)) k = (get? d k).map f := by
  induction d with
  | nil => rfl
  | cons entry d ih =>
      obtain ⟨key, value⟩ := entry
      simp only [List.map_cons, get?_cons, ih]
      split_ifs <;> rfl

/-! ## Sets of keys -/

/-- The members of a list in increasing order, each once. -/
def sortedSet (xs : List κ) : List κ :=
  keys (xs.foldl (fun d x => set d x ()) ([] : Dict κ Unit))

private theorem mem_keys_foldl_set {xs : List κ} {d : Dict κ Unit} {k : κ} :
    k ∈ keys (xs.foldl (fun d x => set d x ()) d) ↔ k ∈ xs ∨ k ∈ keys d := by
  induction xs generalizing d with
  | nil => simp
  | cons x xs ih =>
      rw [List.foldl_cons, ih, mem_keys_set, List.mem_cons]
      tauto

private theorem ordered_foldl_set (xs : List κ) {d : Dict κ Unit} (hd : Ordered d) :
    Ordered (xs.foldl (fun d x => set d x ()) d) := by
  induction xs generalizing d with
  | nil => exact hd
  | cons x xs ih => exact ih (hd.set x ())

@[simp] theorem mem_sortedSet {xs : List κ} {k : κ} : k ∈ sortedSet xs ↔ k ∈ xs := by
  simp [sortedSet, mem_keys_foldl_set]

theorem sortedSet_pairwise (xs : List κ) : (sortedSet xs).Pairwise (· < ·) :=
  ordered_foldl_set xs ordered_nil

/-- Lists with the same members have the same sorted set. -/
theorem sortedSet_congr {xs ys : List κ} (h : ∀ k, k ∈ xs ↔ k ∈ ys) :
    sortedSet xs = sortedSet ys := by
  refine (sortedSet_pairwise xs).eq_of_mem_iff (sortedSet_pairwise ys) fun k => ?_
  rw [mem_sortedSet, mem_sortedSet, h]

theorem sortedSet_eq_nil {xs : List κ} : sortedSet xs = [] ↔ xs = [] := by
  simp only [List.eq_nil_iff_forall_not_mem, mem_sortedSet]

end Dict

end MncsForge.Foundation
