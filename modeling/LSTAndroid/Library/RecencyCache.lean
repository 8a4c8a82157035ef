import Mathlib.Data.List.Basic
import Mathlib.Data.List.Nodup

namespace LSTAndroid.Library.RecencyCache

/-- The entries come in the order of their last use, the eldest first. -/
structure LruCache (κ ν : Type) where
  maxSize : Nat
  entries : List (κ × ν)
  maxSize_pos : 0 < maxSize
  bounded : entries.length ≤ maxSize
  keys_nodup : (entries.map Prod.fst).Nodup

section Entries

variable {κ ν : Type} [DecidableEq κ] {key : κ} {value : ν} {entries : List (κ × ν)}

def without (key : κ) (entries : List (κ × ν)) : List (κ × ν) :=
  entries.filter fun entry => entry.1 ≠ key

theorem mem_without {entry : κ × ν} :
    entry ∈ without key entries ↔ entry ∈ entries ∧ entry.1 ≠ key := by
  simp [without]

theorem without_of_missing (h : key ∉ entries.map Prod.fst) : without key entries = entries := by
  refine List.filter_eq_self.mpr fun entry hentry => ?_
  have hne : entry.1 ≠ key := by
    rintro rfl
    exact h (List.mem_map_of_mem hentry)
  simpa using hne

theorem keys_without_nodup (h : (entries.map Prod.fst).Nodup) (value : ν) :
    ((without key entries ++ [(key, value)]).map Prod.fst).Nodup := by
  rw [List.map_append, List.map_cons, List.map_nil]
  refine (h.sublist ?_).append (List.nodup_singleton _) ?_
  · exact List.filter_sublist.map _
  · intro other hother hkey
    obtain ⟨entry, hentry, rfl⟩ := List.mem_map.mp hother
    exact (mem_without.mp hentry).2 (List.mem_singleton.mp hkey)

theorem length_without_lt (h : (key, value) ∈ entries) :
    (without key entries).length < entries.length := by
  refine List.length_filter_lt_length_iff_exists.mpr ⟨(key, value), h, ?_⟩
  simp

/-- Keys are unique, so that a value is found by its key exactly if it is there. -/
theorem lookup_eq_some_iff (h : (entries.map Prod.fst).Nodup) :
    entries.lookup key = some value ↔ (key, value) ∈ entries := by
  induction entries with
  | nil => simp
  | cons entry entries ih =>
      obtain ⟨other, found⟩ := entry
      obtain ⟨hmissing, hrest⟩ := List.nodup_cons.mp h
      rw [List.lookup_cons, List.mem_cons]
      rcases eq_or_ne key other with rfl | hne
      · have habsent : (key, value) ∉ entries := fun hmem =>
          hmissing (List.mem_map.mpr ⟨_, hmem, rfl⟩)
        simp [habsent, eq_comm]
      · have hdifferent : (key == other) = false := by simpa using hne
        simp [hdifferent, hne, ih hrest]

theorem lookup_eq_none_iff : entries.lookup key = none ↔ key ∉ entries.map Prod.fst := by
  induction entries with
  | nil => simp
  | cons entry entries ih =>
      obtain ⟨other, found⟩ := entry
      rw [List.lookup_cons, List.map_cons, List.mem_cons, not_or]
      rcases eq_or_ne key other with rfl | hne
      · simp
      · have hdifferent : (key == other) = false := by simpa using hne
        simp [hdifferent, hne, ih]

end Entries

namespace LruCache

variable {κ ν : Type} [DecidableEq κ]

def empty (maxSize : Nat) (h : 0 < maxSize) : LruCache κ ν :=
  ⟨maxSize, [], h, Nat.zero_le _, List.nodup_nil⟩

def get (key : κ) (cache : LruCache κ ν) : LruCache κ ν × Option ν :=
  match h : cache.entries.lookup key with
  | none => (cache, none)
  | some value =>
      ({ cache with
        entries := without key cache.entries ++ [(key, value)]
        bounded := by
          have hmem := (lookup_eq_some_iff cache.keys_nodup).mp h
          have hless := length_without_lt hmem
          have hbounded := cache.bounded
          rw [List.length_append, List.length_singleton]
          omega
        keys_nodup := keys_without_nodup cache.keys_nodup value }, some value)

/-- The other part of the answer is what the cache has dropped. -/
def put (key : κ) (value : ν) (cache : LruCache κ ν) : LruCache κ ν × List (κ × ν) :=
  let entries := without key cache.entries ++ [(key, value)]
  let excess := entries.length - cache.maxSize
  ({ cache with
    entries := entries.drop excess
    bounded := by
      rw [List.length_drop]
      omega
    keys_nodup := by
      rw [List.map_drop]
      exact (keys_without_nodup cache.keys_nodup value).sublist (List.drop_sublist _ _) },
    cache.entries.filter (fun entry => entry.1 = key) ++ entries.take excess)

def remove (key : κ) (cache : LruCache κ ν) : LruCache κ ν × Option ν :=
  ({ cache with
    entries := without key cache.entries
    bounded := Nat.le_trans (List.length_filter_le _ _) cache.bounded
    keys_nodup := cache.keys_nodup.sublist (List.filter_sublist.map _) },
    cache.entries.lookup key)

def evictAll (cache : LruCache κ ν) : LruCache κ ν × List (κ × ν) :=
  ({ cache with
    entries := []
    bounded := Nat.zero_le _
    keys_nodup := List.nodup_nil }, cache.entries)

variable {key : κ} {value : ν} {cache : LruCache κ ν} {entry : κ × ν}

theorem get_snd (key : κ) (cache : LruCache κ ν) :
    (cache.get key).2 = cache.entries.lookup key := by
  unfold get
  split
  · rename_i hnone
    exact hnone.symm
  · rename_i found hfound
    exact hfound.symm

@[simp] theorem mem_get : entry ∈ (cache.get key).1.entries ↔ entry ∈ cache.entries := by
  unfold get
  split
  · rfl
  · rename_i found hfound
    have hmem := (lookup_eq_some_iff cache.keys_nodup).mp hfound
    rw [List.mem_append, mem_without, List.mem_singleton]
    constructor
    · rintro (⟨hentry, -⟩ | rfl)
      · exact hentry
      · exact hmem
    · intro hentry
      rcases eq_or_ne entry.1 key with hsame | hne
      · refine .inr (Prod.ext hsame ?_)
        have hthis : cache.entries.lookup key = some entry.2 := by
          refine (lookup_eq_some_iff cache.keys_nodup).mpr ?_
          rw [← hsame]
          exact hentry
        exact Option.some.inj (hthis.symm.trans hfound)
      · exact .inl ⟨hentry, hne⟩

theorem mem_of_get {found : ν} (h : (cache.get key).2 = some found) :
    (key, found) ∈ cache.entries := by
  rw [get_snd] at h
  exact (lookup_eq_some_iff cache.keys_nodup).mp h

theorem get_of_missing (h : (cache.get key).2 = none) :
    (cache.get key).1 = cache ∧ key ∉ cache.entries.map Prod.fst := by
  rw [get_snd] at h
  refine ⟨?_, lookup_eq_none_iff.mp h⟩
  unfold get
  split
  · rfl
  · simp_all

theorem put_of_missing (h : key ∉ cache.entries.map Prod.fst) :
    (cache.put key value).2 =
        (if cache.entries.length = cache.maxSize then cache.entries.take 1 else []) ∧
      (cache.put key value).1.entries =
        (if cache.entries.length = cache.maxSize then cache.entries.drop 1 else cache.entries) ++
          [(key, value)] := by
  have hnone : cache.entries.filter (fun entry => entry.1 = key) = [] := by
    refine List.filter_eq_nil_iff.mpr fun other hother hsame => h ?_
    rw [decide_eq_true_eq] at hsame
    exact hsame ▸ List.mem_map_of_mem hother
  have hpos := cache.maxSize_pos
  have hbounded := cache.bounded
  simp only [put, without_of_missing h, hnone, List.nil_append, List.length_append,
    List.length_singleton]
  split
  · rename_i hfull
    have hexcess : cache.entries.length + 1 - cache.maxSize = 1 := by omega
    have hone : 1 ≤ cache.entries.length := by omega
    rw [hexcess]
    exact ⟨List.take_append_of_le_length hone, List.drop_append_of_le_length hone⟩
  · have hexcess : cache.entries.length + 1 - cache.maxSize = 0 := by omega
    rw [hexcess]
    exact ⟨rfl, rfl⟩

@[simp] theorem mem_remove :
    entry ∈ (cache.remove key).1.entries ↔ entry ∈ cache.entries ∧ entry.1 ≠ key :=
  mem_without

end LruCache

end LSTAndroid.Library.RecencyCache
