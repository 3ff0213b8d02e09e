import Literate.Dictionary

/-!
# Keys of a dictionary

A key that a dictionary does not hold has no value there, and giving it one adds
an entry at the end.  Insertions keep every key once, and where every key stands
once an update prevails over what was there before.

**Main statements.**
* `update_of_nodup`: an update by new keys adds entries at the end.
* `update_insert`: an update by a dictionary with one more value.
* `get?_update`: a look-up after an update.
-/

namespace Literate
namespace Dictionary

variable {κ ν : Type} [DecidableEq κ]

theorem get?_eq_none_iff
    {d : Dictionary κ ν} {k : κ} :
    d.get? k = none ↔ k ∉ d.keys := by
  obtain ⟨entries⟩ := d
  simp only [get?, keys]
  induction entries with
  | nil =>
      simp [lookup]
  | cons entry rest ih =>
      by_cases same : entry.1 = k
      · simp [lookup, same]
      · simp [lookup, same, ih, Ne.symm same]

/-- The value of a key stands beside it. -/
theorem mem_entries_of_get?
    {d : Dictionary κ ν} {k : κ} {v : ν}
    (h : d.get? k = some v) :
    (k, v) ∈ d.entries := by
  obtain ⟨entries⟩ := d
  change lookup k entries = some v at h
  induction entries with
  | nil =>
      cases h
  | cons entry rest ih =>
      obtain ⟨k', v'⟩ := entry
      rw [lookup] at h
      split at h
      · rename_i hkey
        cases h
        exact hkey ▸ List.mem_cons_self
      · exact List.mem_cons_of_mem _ (ih h)

/-- A look-up finds what stands beside a key when every key comes once. -/
theorem get?_of_mem_entries
    {d : Dictionary κ ν} {k : κ} {v : ν}
    (hkeys : d.keys.Nodup)
    (h : (k, v) ∈ d.entries) :
    d.get? k = some v := by
  obtain ⟨entries⟩ := d
  change lookup k entries = some v
  induction entries with
  | nil =>
      cases h
  | cons entry rest ih =>
      obtain ⟨hnew, hrest⟩ := List.nodup_cons.mp hkeys
      rcases List.mem_cons.mp h with rfl | hmem
      · exact if_pos rfl
      · have hother : entry.1 ≠ k := by
          rintro rfl
          exact hnew (List.mem_map.mpr ⟨_, hmem, rfl⟩)
        rw [lookup, if_neg hother]
        exact ih hrest hmem

theorem insert_of_not_mem
    {d : Dictionary κ ν} {k : κ} (v : ν)
    (h : k ∉ d.keys) :
    d.insert k v = ⟨d.entries ++ [(k, v)]⟩ := by
  obtain ⟨entries⟩ := d
  simp only [keys] at h
  simp only [insert, mk.injEq]
  induction entries with
  | nil =>
      rfl
  | cons entry rest ih =>
      simp only [List.map_cons, List.mem_cons, not_or] at h
      rw [put, if_neg (Ne.symm h.1), ih h.2, List.cons_append]

/-- Entries whose keys are new and distinct are added as they stand. -/
theorem update_of_nodup
    {d e : Dictionary κ ν}
    (h : (d.keys ++ e.keys).Nodup) :
    d.update e = ⟨d.entries ++ e.entries⟩ := by
  obtain ⟨entries⟩ := e
  induction entries generalizing d with
  | nil =>
      simp [update]
  | cons entry rest ih =>
      obtain ⟨key, value⟩ := entry
      have hnew : key ∉ d.keys := by
        intro hmem
        have hdisjoint := (List.nodup_append.mp h).2.2
        exact hdisjoint key hmem key (by simp [keys]) rfl
      have hrest := ih (d := d.insert key value) (by
        rw [insert_of_not_mem value hnew]
        simpa [keys] using h)
      rw [insert_of_not_mem value hnew] at hrest
      simpa [update, insert_of_not_mem value hnew] using hrest

theorem nodup_keys_insert
    {d : Dictionary κ ν} (k : κ) (v : ν)
    (h : d.keys.Nodup) :
    (d.insert k v).keys.Nodup := by
  rw [keys_insert]
  split
  · exact h
  · rename_i hmem
    rw [List.nodup_append]
    refine ⟨h, by simp, ?_⟩
    intro a ha b hb heq
    exact hmem (List.mem_singleton.mp hb ▸ heq ▸ ha)

theorem nodup_keys_update
    {d : Dictionary κ ν} (e : Dictionary κ ν)
    (h : d.keys.Nodup) :
    (d.update e).keys.Nodup := by
  obtain ⟨entries⟩ := e
  induction entries generalizing d with
  | nil =>
      exact h
  | cons entry rest ih =>
      exact ih (nodup_keys_insert entry.1 entry.2 h)

/-- The last of two values that a key is given is the one that counts. -/
theorem insert_insert
    (d : Dictionary κ ν) (k : κ) (v w : ν) :
    (d.insert k v).insert k w = d.insert k w := by
  obtain ⟨entries⟩ := d
  simp only [insert, mk.injEq]
  induction entries with
  | nil =>
      simp [put]
  | cons entry rest ih =>
      by_cases same : entry.1 = k
      · simp [put, same]
      · simp [put, same, ih]

/-- A key that is there keeps its place, so that it does not matter whether another one is given a value
before or after. -/
theorem insert_comm_of_mem
    {d : Dictionary κ ν} {k k' : κ} (v v' : ν)
    (hmem : k ∈ d.keys)
    (hne : k ≠ k') :
    (d.insert k v).insert k' v' = (d.insert k' v').insert k v := by
  obtain ⟨entries⟩ := d
  simp only [keys] at hmem
  simp only [insert, mk.injEq]
  induction entries with
  | nil =>
      cases hmem
  | cons entry rest ih =>
      obtain ⟨key, value⟩ := entry
      by_cases same : key = k
      · subst same
        simp [put, hne]
      · have hrest : k ∈ rest.map Prod.fst := (List.mem_cons.mp hmem).resolve_left (Ne.symm same)
        by_cases same' : key = k'
        · subst same'
          simp [put, same]
        · simp [put, same, same', ih hrest]

theorem mem_keys_insert
    (d : Dictionary κ ν) (k : κ) (v : ν) :
    k ∈ (d.insert k v).keys := by
  rw [keys_insert]
  split
  · assumption
  · simp

theorem mem_keys_insert_of_mem
    {d : Dictionary κ ν} {k : κ} (k' : κ) (v : ν)
    (h : k ∈ d.keys) :
    k ∈ (d.insert k' v).keys := by
  rw [keys_insert]
  split
  · exact h
  · exact List.mem_append_left _ h

/-- An update that does not concern a key may come before or after the key is given a value. -/
theorem insert_update_of_mem
    {d e : Dictionary κ ν} {k : κ} (v : ν)
    (hmem : k ∈ d.keys)
    (hother : k ∉ e.keys) :
    (d.insert k v).update e = (d.update e).insert k v := by
  obtain ⟨entries⟩ := e
  simp only [keys] at hother
  simp only [update]
  induction entries generalizing d with
  | nil =>
      rfl
  | cons entry rest ih =>
      simp only [List.map_cons, List.mem_cons, not_or] at hother
      rw [List.foldl_cons, List.foldl_cons, insert_comm_of_mem v entry.2 hmem hother.1,
        ih (mem_keys_insert_of_mem entry.1 entry.2 hmem) hother.2]

/-- An update by a dictionary that has got one more value is the update and then that value. -/
theorem update_insert
    (d : Dictionary κ ν) {e : Dictionary κ ν} (k : κ) (v : ν)
    (h : e.keys.Nodup) :
    d.update (e.insert k v) = (d.update e).insert k v := by
  obtain ⟨entries⟩ := e
  simp only [keys] at h
  induction entries generalizing d with
  | nil =>
      rfl
  | cons entry rest ih =>
      obtain ⟨key, value⟩ := entry
      simp only [List.map_cons, List.nodup_cons] at h
      by_cases same : key = k
      · subst same
        have hrest := insert_update_of_mem (e := ⟨rest⟩) v (mem_keys_insert d key value) h.1
        rw [insert_insert] at hrest
        simpa [update, insert, put] using hrest
      · have hrest := ih (d.insert key value) h.2
        simpa [update, insert, put, same] using hrest

/-- Giving a key the value that it has changes nothing. -/
theorem insert_of_get?
    {d : Dictionary κ ν} {k : κ} {v : ν}
    (h : d.get? k = some v) :
    d.insert k v = d := by
  obtain ⟨entries⟩ := d
  simp only [get?, insert, mk.injEq] at h ⊢
  induction entries with
  | nil =>
      cases h
  | cons entry rest ih =>
      obtain ⟨key, value⟩ := entry
      by_cases hkey : key = k
      · obtain rfl : value = v := by simpa [lookup, hkey] using h
        simp [put, hkey]
      · rw [lookup, if_neg hkey] at h
        rw [put, if_neg hkey, ih h]

/-- After an update the new values prevail. -/
theorem get?_update
    (d : Dictionary κ ν) {e : Dictionary κ ν} (k : κ)
    (h : e.keys.Nodup) :
    (d.update e).get? k = (e.get? k).or (d.get? k) := by
  obtain ⟨entries⟩ := e
  induction entries generalizing d with
  | nil =>
      rfl
  | cons entry rest ih =>
      obtain ⟨key, value⟩ := entry
      rw [keys, List.map_cons, List.nodup_cons] at h
      have hstep : (d.update ⟨(key, value) :: rest⟩).get? k =
          ((⟨rest⟩ : Dictionary κ ν).get? k).or ((d.insert key value).get? k) :=
        ih (d.insert key value) h.2
      rw [hstep, get?_insert]
      by_cases hkey : key = k
      · -- the key does not come again, so its value stays
        subst hkey
        have hnew : (⟨rest⟩ : Dictionary κ ν).get? key = none := get?_eq_none_iff.mpr h.1
        rw [hnew]
        simp [get?, lookup]
      · simp [get?, lookup, hkey]

end Dictionary
end Literate
