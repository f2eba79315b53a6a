import Mathlib.Data.List.Nodup

/-!
# A registry of slots

A fixed array whose slots are free or hold an entry with a key.  An entry is
found by its key in the first slot that holds one, replaced there, put into
a free slot, and removed from its slot.

`Distinct` says that no two entries have the same key.  The results say for
every operation that it keeps `Distinct`, and which entries there are
afterwards.
-/

namespace Slots

variable {α κ : Type}

/-- The entries in the order of their slots. -/
def entries (slots : List (Option α)) : List α := slots.filterMap id

@[simp] theorem entries_none_cons (slots : List (Option α)) :
    entries (none :: slots) = entries slots := rfl

@[simp] theorem entries_some_cons (a : α) (slots : List (Option α)) :
    entries (some a :: slots) = a :: entries slots := rfl

theorem mem_entries {a : α} {slots : List (Option α)} : a ∈ entries slots ↔ some a ∈ slots := by
  simp [entries]

theorem mem_entries_iff_getElem? {a : α} {slots : List (Option α)} :
    a ∈ entries slots ↔ ∃ j : Nat, slots[j]? = some (some a) :=
  mem_entries.trans List.mem_iff_getElem?

theorem entries_replicate_none (n : Nat) : entries (List.replicate n (none : Option α)) = [] := by
  induction n with
  | zero => rfl
  | succ n ih => exact ih

theorem entries_map {β : Type} (f : α → β) (slots : List (Option α)) :
    entries (slots.map (Option.map f)) = (entries slots).map f := by
  induction slots with
  | nil => rfl
  | cons slot slots ih =>
    cases slot with
    | none => simpa using ih
    | some a => simpa using ih

/-- No two entries have the same key. -/
def Distinct (key : α → κ) (slots : List (Option α)) : Prop := ((entries slots).map key).Nodup

variable {key : α → κ}

theorem Distinct.eq_of_key {slots : List (Option α)} (h : Distinct key slots) {a b : α}
    (ha : a ∈ entries slots) (hb : b ∈ entries slots) (hkey : key a = key b) : a = b :=
  List.inj_on_of_nodup_map h ha hb hkey

/-! ## Free slots -/

/-- An entry put into a free slot. -/
theorem perm_entries_set_some {slots : List (Option α)} {i : Nat} (h : slots[i]? = some none)
    (a : α) : (entries (slots.set i (some a))).Perm (a :: entries slots) := by
  induction slots generalizing i with
  | nil => simp at h
  | cons slot slots ih =>
    cases i with
    | zero =>
      have hnone : slot = none := by simpa using h
      subst hnone
      exact List.Perm.refl _
    | succ i =>
      have hperm := ih (i := i) (by simpa using h)
      cases slot with
      | none => exact hperm
      | some b => exact (hperm.cons b).trans (List.Perm.swap a b _)

theorem Distinct.set_some {slots : List (Option α)} (h : Distinct key slots) {i : Nat}
    (hi : slots[i]? = some none) {a : α} (ha : ∀ b ∈ entries slots, key b ≠ key a) :
    Distinct key (slots.set i (some a)) := by
  rw [Distinct, ((perm_entries_set_some hi a).map key).nodup_iff, List.map_cons, List.nodup_cons]
  refine ⟨fun hmem => ?_, h⟩
  obtain ⟨b, hb, hkey⟩ := List.mem_map.mp hmem
  exact ha b hb hkey

/-- Clearing a slot leaves entries that were there before, in their order. -/
theorem entries_set_none (slots : List (Option α)) (i : Nat) :
    (entries (slots.set i none)).Sublist (entries slots) := by
  induction slots generalizing i with
  | nil => exact List.Sublist.refl _
  | cons slot slots ih =>
    cases i with
    | zero =>
      cases slot with
      | none => exact List.Sublist.refl _
      | some a => exact List.sublist_cons_self a _
    | succ i =>
      cases slot with
      | none => exact ih i
      | some a => exact (ih i).cons_cons a

theorem set_eq_self {β : Type} {l : List β} {i : Nat} {b : β} (h : l[i]? = some b) :
    l.set i b = l :=
  (List.getElem?_eq_some_iff.mp h).2 ▸ List.set_getElem_self (List.getElem?_eq_some_iff.mp h).1

/-- Clearing a slot takes its entry away. -/
theorem perm_entries_set_none {slots : List (Option α)} {i : Nat} {a : α}
    (h : slots[i]? = some (some a)) : (entries slots).Perm (a :: entries (slots.set i none)) := by
  have hlt : i < slots.length := (List.getElem?_eq_some_iff.mp h).1
  have hfree : (slots.set i none)[i]? = some none := List.getElem?_set_self hlt
  have hperm := perm_entries_set_some hfree a
  rw [List.set_set, set_eq_self h] at hperm
  exact hperm

/-- What a slot holds, and the entries without it. -/
theorem perm_entries_join (slots : List (Option α)) (i : Nat) :
    (slots[i]?.join.toList ++ entries (slots.set i none)).Perm (entries slots) := by
  cases hslot : slots[i]? with
  | none =>
    rw [List.set_eq_of_length_le (List.getElem?_eq_none_iff.mp hslot)]
    exact .refl _
  | some slot =>
    cases slot with
    | none =>
      rw [set_eq_self hslot]
      exact .refl _
    | some a => exact (perm_entries_set_none hslot).symm

/-- Setting a slot leaves the other entries. -/
theorem perm_entries_set {slots : List (Option α)} {i : Nat} (hi : i < slots.length) (b : α) :
    (entries (slots.set i (some b))).Perm (b :: entries (slots.set i none)) := by
  have hfree : (slots.set i none)[i]? = some none := List.getElem?_set_self hi
  have hperm := perm_entries_set_some hfree b
  rw [List.set_set] at hperm
  exact hperm

theorem length_entries_set_free {slots : List (Option α)} {i : Nat} (h : slots[i]? = some none)
    (a : α) : (entries (slots.set i (some a))).length = (entries slots).length + 1 := by
  rw [(perm_entries_set_some h a).length_eq, List.length_cons]

theorem length_entries_set_taken {slots : List (Option α)} {i : Nat} {b : α}
    (h : slots[i]? = some (some b)) (a : α) :
    (entries (slots.set i (some a))).length = (entries slots).length := by
  rw [(perm_entries_set (List.getElem?_eq_some_iff.mp h).1 a).length_eq,
    (perm_entries_set_none h).length_eq, List.length_cons, List.length_cons]

/-- Changing the entry of a slot leaves the other entries. -/
theorem mem_entries_modify {f : α → α} {slots : List (Option α)} {i : Nat} {a : α}
    (h : a ∈ entries (slots.modify i (Option.map f))) :
    (∃ b, slots[i]? = some (some b) ∧ a = f b) ∨ a ∈ entries slots := by
  obtain ⟨j, hj⟩ := List.mem_iff_getElem?.mp (mem_entries.mp h)
  rw [List.getElem?_modify] at hj
  by_cases hij : i = j
  · subst hij
    left
    cases hslot : slots[i]? with
    | none => simp [hslot] at hj
    | some slot =>
      cases slot with
      | none => simp [hslot] at hj
      | some b =>
        refine ⟨b, rfl, ?_⟩
        simpa [hslot] using hj.symm
  · simp only [if_neg hij] at hj
    exact .inr (mem_entries.mpr (List.mem_of_getElem? (by simpa using hj)))

theorem Distinct.set_none {slots : List (Option α)} (h : Distinct key slots) (i : Nat) :
    Distinct key (slots.set i none) :=
  h.sublist ((entries_set_none slots i).map key)

/-- A key has one slot. -/
theorem Distinct.slot_unique {slots : List (Option α)} (h : Distinct key slots) {i j : Nat}
    {a b : α} (hi : slots[i]? = some (some a)) (hj : slots[j]? = some (some b)) (hkey : key a = key b) :
    i = j := by
  by_contra hne
  have hperm := (perm_entries_set_none hi).map key
  rw [Distinct, hperm.nodup_iff, List.map_cons, List.nodup_cons] at h
  apply h.1
  rw [hkey]
  apply List.mem_map_of_mem
  apply mem_entries.mpr
  have hkept : (slots.set i none)[j]? = some (some b) := by
    rw [List.getElem?_set_ne hne]
    exact hj
  exact List.mem_of_getElem? hkept

theorem mem_entries_set_none {slots : List (Option α)} {i : Nat} {b : α} :
    b ∈ entries (slots.set i none) ↔ ∃ j, j ≠ i ∧ slots[j]? = some (some b) := by
  rw [mem_entries_iff_getElem?]
  constructor
  · rintro ⟨j, hj⟩
    by_cases hij : i = j
    · subst hij
      rw [List.getElem?_set_self'] at hj
      cases hslot : slots[i]? <;> simp [hslot] at hj
    · rw [List.getElem?_set_ne hij] at hj
      exact ⟨j, Ne.symm hij, hj⟩
  · rintro ⟨j, hij, hj⟩
    exact ⟨j, by rw [List.getElem?_set_ne (Ne.symm hij)]; exact hj⟩

theorem mem_entries_set {slots : List (Option α)} {i : Nat} (hi : i < slots.length) {a b : α} :
    b ∈ entries (slots.set i (some a)) ↔ b = a ∨ ∃ j, j ≠ i ∧ slots[j]? = some (some b) := by
  rw [(perm_entries_set hi a).mem_iff, List.mem_cons, mem_entries_set_none]

/-- A slot is set to an entry whose key the other slots do not have. -/
theorem Distinct.set {slots : List (Option α)} (h : Distinct key slots) {i : Nat}
    (hi : i < slots.length) {a : α}
    (hfresh : ∀ j b, j ≠ i → slots[j]? = some (some b) → key b ≠ key a) :
    Distinct key (slots.set i (some a)) := by
  rw [Distinct, ((perm_entries_set hi a).map key).nodup_iff, List.map_cons, List.nodup_cons]
  refine ⟨fun hmem => ?_, h.sublist ((entries_set_none slots i).map key)⟩
  obtain ⟨b, hb, hkey⟩ := List.mem_map.mp hmem
  obtain ⟨j, hj, hslot⟩ := mem_entries_set_none.mp hb
  exact hfresh j b hj hslot hkey

/-- Exchanging an entry for one of the same key. -/
theorem Distinct.exchange {slots : List (Option α)} (h : Distinct key slots) {i : Nat} {a b : α}
    (hi : slots[i]? = some (some a)) (hkey : key b = key a) :
    Distinct key (slots.set i (some b)) := by
  apply h.set (List.getElem?_eq_some_iff.mp hi).1
  intro j c hj hc hsame
  exact hj (h.slot_unique hc hi (hsame.trans hkey))

/-! ## Finding and replacing an entry -/

section Find

variable [DecidableEq κ] (key)

/-- The entry in the first slot with the key. -/
def find (k : κ) (slots : List (Option α)) : Option α :=
  (entries slots).find? (fun a => key a = k)

/-- Put another entry into the slot that `find` finds. -/
def replace (k : κ) (a : α) : List (Option α) → List (Option α)
  | [] => []
  | none :: slots => none :: replace k a slots
  | some found :: slots =>
    if key found = k then some a :: slots else some found :: replace k a slots

variable {key}

theorem mem_of_find {k : κ} {slots : List (Option α)} {a : α} (h : find key k slots = some a) :
    a ∈ entries slots ∧ key a = k :=
  ⟨List.mem_of_find?_eq_some h, by simpa using List.find?_some h⟩

theorem ne_of_find_eq_none {k : κ} {slots : List (Option α)} (h : find key k slots = none) {a : α}
    (ha : a ∈ entries slots) : key a ≠ k := by
  have := List.find?_eq_none.mp h a ha
  simpa using this

/-- With distinct keys the order of the slots does not matter. -/
theorem Distinct.find_eq_some_iff {slots : List (Option α)} (h : Distinct key slots) {k : κ}
    {a : α} : find key k slots = some a ↔ a ∈ entries slots ∧ key a = k := by
  constructor
  · exact mem_of_find
  · rintro ⟨hmem, hkey⟩
    cases hfind : find key k slots with
    | none => exact absurd hkey (ne_of_find_eq_none hfind hmem)
    | some b =>
      obtain ⟨hb, hkeyb⟩ := mem_of_find hfind
      rw [h.eq_of_key hb hmem (hkeyb.trans hkey.symm)]

/-- What is found when a slot is set: the new entry under its own key, and
under another key what was found before, unless the slot had held it. -/
theorem Distinct.find_set {slots : List (Option α)} (h : Distinct key slots) {i : Nat}
    {old : Option α} (hold : slots[i]? = some old) {a : α}
    (hnew : Distinct key (slots.set i (some a))) (k : κ) :
    find key k (slots.set i (some a)) =
      if key a = k then some a else if old.map key = some k then none else find key k slots := by
  have hi := (List.getElem?_eq_some_iff.mp hold).1
  by_cases ha : key a = k
  · rw [if_pos ha, hnew.find_eq_some_iff, mem_entries_set hi]
    exact ⟨.inl rfl, ha⟩
  · rw [if_neg ha]
    by_cases hgone : old.map key = some k
    · rw [if_pos hgone]
      obtain ⟨b, rfl, hb⟩ := Option.map_eq_some_iff.mp hgone
      cases hfind : find key k (slots.set i (some a)) with
      | none => rfl
      | some c =>
        obtain ⟨hmem, hkey⟩ := hnew.find_eq_some_iff.mp hfind
        rcases (mem_entries_set hi).mp hmem with rfl | ⟨j, hj, hslot⟩
        · exact absurd hkey ha
        · exact absurd (h.slot_unique hslot hold (hkey.trans hb.symm)) hj
    · rw [if_neg hgone]
      ext b
      rw [hnew.find_eq_some_iff, h.find_eq_some_iff, mem_entries_set hi, mem_entries_iff_getElem?]
      constructor
      · rintro ⟨rfl | ⟨j, _, hslot⟩, hkey⟩
        · exact absurd hkey ha
        · exact ⟨⟨j, hslot⟩, hkey⟩
      · rintro ⟨⟨j, hslot⟩, hkey⟩
        refine ⟨.inr ⟨j, ?_, hslot⟩, hkey⟩
        rintro rfl
        have hsame : old = some b := Option.some.inj (hold.symm.trans hslot)
        exact hgone (by rw [hsame, Option.map_some, hkey])

theorem mem_replace {k : κ} {a b : α} {slots : List (Option α)}
    (h : b ∈ entries (replace key k a slots)) : b = a ∨ b ∈ entries slots := by
  induction slots with
  | nil => exact .inr h
  | cons slot slots ih =>
    cases slot with
    | none => exact ih h
    | some found =>
      rw [replace] at h
      split at h
      · rcases List.mem_cons.mp h with rfl | hmem
        · exact .inl rfl
        · exact .inr (List.mem_cons_of_mem _ hmem)
      · rcases List.mem_cons.mp h with rfl | hmem
        · exact .inr List.mem_cons_self
        · exact (ih hmem).imp_right (List.mem_cons_of_mem _)

/-- Only the slot of the entry that was found changes. -/
theorem getElem?_replace {k : κ} {a found : α} {slots : List (Option α)}
    (h : find key k slots = some found) (i : Nat) :
    (replace key k a slots)[i]? = slots[i]? ∨
      slots[i]? = some (some found) ∧ (replace key k a slots)[i]? = some (some a) := by
  induction slots generalizing i with
  | nil => exact .inl rfl
  | cons slot slots ih =>
    cases slot with
    | none =>
      cases i with
      | zero => exact .inl rfl
      | succ i => exact ih h i
    | some first =>
      by_cases hfirst : key first = k
      · have hfound : first = found := by
          rw [find, entries_some_cons, List.find?_cons_of_pos (by simpa using hfirst)] at h
          exact Option.some.inj h
        subst hfound
        rw [replace, if_pos hfirst]
        cases i with
        | zero => exact .inr ⟨rfl, rfl⟩
        | succ i => exact .inl rfl
      · have hrest : find key k slots = some found := by
          rw [find, entries_some_cons, List.find?_cons_of_neg (by simpa using hfirst)] at h
          exact h
        rw [replace, if_neg hfirst]
        cases i with
        | zero => exact .inl rfl
        | succ i => exact ih hrest i

/-- `replace` exchanges the entry in the slot of the one that was found. -/
theorem replace_eq_set {k : κ} {found : α} {slots : List (Option α)}
    (h : find key k slots = some found) (a : α) :
    ∃ i, slots[i]? = some (some found) ∧ replace key k a slots = slots.set i (some a) := by
  induction slots with
  | nil => cases h
  | cons slot slots ih =>
    cases slot with
    | none =>
      obtain ⟨i, hi, hset⟩ := ih h
      exact ⟨i + 1, hi, by rw [replace, hset, List.set_cons_succ]⟩
    | some first =>
      by_cases hfirst : key first = k
      · have hfound : first = found := by
          rw [find, entries_some_cons, List.find?_cons_of_pos (by simpa using hfirst)] at h
          exact Option.some.inj h
        exact ⟨0, by rw [← hfound]; rfl, by rw [replace, if_pos hfirst]; rfl⟩
      · have hrest : find key k slots = some found := by
          rw [find, entries_some_cons, List.find?_cons_of_neg (by simpa using hfirst)] at h
          exact h
        obtain ⟨i, hi, hset⟩ := ih hrest
        exact ⟨i + 1, hi, by rw [replace, if_neg hfirst, hset, List.set_cons_succ]⟩

theorem keys_replace {k : κ} {a : α} (hk : key a = k) (slots : List (Option α)) :
    (entries (replace key k a slots)).map key = (entries slots).map key := by
  induction slots with
  | nil => rfl
  | cons slot slots ih =>
    cases slot with
    | none => simpa [replace] using ih
    | some found =>
      rw [replace]
      split
      · rename_i hfound
        simp [hk, hfound]
      · simpa using ih

theorem Distinct.replace {k : κ} {a : α} (hk : key a = k) {slots : List (Option α)}
    (h : Distinct key slots) : Distinct key (replace key k a slots) := by
  rw [Distinct, keys_replace hk]
  exact h

theorem mem_replace_self {k : κ} {a : α} {slots : List (Option α)}
    (h : find key k slots ≠ none) : a ∈ entries (replace key k a slots) := by
  induction slots with
  | nil => exact absurd rfl h
  | cons slot slots ih =>
    cases slot with
    | none => exact ih h
    | some found =>
      rw [replace]
      split
      · simp
      · rename_i hne
        have hrest : find key k slots ≠ none := by
          rw [find, entries_some_cons, List.find?_cons_of_neg (by simpa using hne)] at h
          exact h
        simpa using Or.inr (ih hrest)

/-- The only entry with the key is the one put in. -/
theorem eq_of_mem_replace {k : κ} {a b : α} (hk : key a = k) {slots : List (Option α)}
    (h : Distinct key slots) (hfound : find key k slots ≠ none)
    (hb : b ∈ entries (Slots.replace key k a slots)) (hkey : key b = k) : b = a :=
  (h.replace hk).eq_of_key hb (mem_replace_self hfound) (by rw [hkey, hk])

end Find

/-! ## Another view of the entries -/

section View

variable {β : Type} [DecidableEq κ] {key : α → κ} {key' : β → κ} {f g : α → β}

theorem find_map (hkey : ∀ a, key' (f a) = key a) (k : κ) (slots : List (Option α)) :
    find key' k (slots.map (Option.map f)) = (find key k slots).map f := by
  have hsame : (fun b => decide (key' b = k)) ∘ f = fun a => decide (key a = k) :=
    funext fun a => by rw [Function.comp_apply, hkey]
  rw [find, entries_map, List.find?_map, hsame, find]

theorem map_congr {slots : List (Option α)} (h : ∀ a ∈ entries slots, f a = g a) :
    slots.map (Option.map f) = slots.map (Option.map g) := by
  refine List.map_congr_left fun slot hslot => ?_
  cases slot with
  | none => rfl
  | some a => rw [Option.map_some, Option.map_some, h a (mem_entries.mpr hslot)]

/-- With distinct keys another view of one entry is another view of its slot. -/
theorem Distinct.replace_map {slots : List (Option α)} (h : Distinct key slots) {k : κ} {a : α}
    (hfound : find key k slots ≠ none) (hkey : ∀ a, key' (f a) = key a)
    (hsame : ∀ b, key b ≠ k → f b = g b) :
    Slots.replace key' k (g a) (slots.map (Option.map f)) =
      (Slots.replace key k a slots).map (Option.map g) := by
  induction slots with
  | nil => exact absurd rfl hfound
  | cons slot slots ih =>
    cases slot with
    | none => exact congrArg (none :: ·) (ih h hfound)
    | some first =>
      rw [Distinct, entries_some_cons, List.map_cons, List.nodup_cons] at h
      rw [List.map_cons, Option.map_some, Slots.replace, Slots.replace, hkey]
      by_cases hfirst : key first = k
      · have hrest : ∀ b ∈ entries slots, f b = g b := fun b hb =>
          hsame b fun hb' => h.1 (List.mem_map.mpr ⟨b, hb, hb'.trans hfirst.symm⟩)
        rw [if_pos hfirst, if_pos hfirst, map_congr hrest]
        rfl
      · have hfound' : find key k slots ≠ none := by
          rw [find, entries_some_cons, List.find?_cons_of_neg (by simpa using hfirst)] at hfound
          exact hfound
        rw [if_neg hfirst, if_neg hfirst, ih h.2 hfound', hsame first hfirst]
        rfl

end View

end Slots
