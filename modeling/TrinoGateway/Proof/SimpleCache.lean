import Mathlib.Data.List.Pairwise
import TrinoGateway.Spec.Auth

/-!
# The cache and its history

A read deletes an entry that it finds expired. That is never seen: `get_after_iff` says that
**a read answers from the last update of its key alone**, whatever else has happened to the cache.

* `CacheHistory now`: the calls up to the time `now`, in order.
* `lastUpdate`: what the last update of a key has stored.
* `Refines`: the cache has what the last updates have stored, but for entries that are expired and
  therefore stay so.
-/

namespace TrinoGateway.InMemorySimpleCache

inductive CacheOp
  | get (key : String)
  | update (key value : String)
deriving DecidableEq, Repr

/-- An operation, and the reading of the clock while it holds the lock. -/
structure CacheCall where
  time : ℤ
  op : CacheOp
deriving DecidableEq, Repr

/-- The cache that a call leaves. -/
def perform (authCache : InMemorySimpleCache) (c : CacheCall) : InMemorySimpleCache :=
  match c.op with
  | .get key => (authCache.get c.time key).2
  | .update key value => authCache.update c.time key value

/-- A cache that has been empty, after the calls. -/
def after (expiryInterval : ℤ) (calls : List CacheCall) : InMemorySimpleCache :=
  calls.foldl perform { expiryInterval := expiryInterval }

/-- Calls one after the other, none of them later than `now`. -/
structure CacheHistory (now : ℤ) where
  calls : List CacheCall
  ordered : (calls.map CacheCall.time ++ [now]).Pairwise (· ≤ ·)

/-- What a call stores under a key. -/
def CacheCall.stores (key : String) (c : CacheCall) : Option CacheEntry :=
  match c.op with
  | .get _ => none
  | .update k value => if k = key then some { timestamp := c.time, value := value } else none

/-- The entry of the last update of a key. -/
def lastUpdate (calls : List CacheCall) (key : String) : Option CacheEntry :=
  calls.reverse.findSome? (CacheCall.stores key)

theorem lastUpdate_concat (calls : List CacheCall) (c : CacheCall) (key : String) :
    lastUpdate (calls ++ [c]) key = (c.stores key).or (lastUpdate calls key) := by
  unfold lastUpdate
  rw [List.reverse_concat, List.findSome?_cons]
  cases c.stores key <;> rfl

/-- The calls that store nothing under the key do not matter. -/
theorem lastUpdate_filter (calls : List CacheCall) (key : String) :
    lastUpdate (calls.filter fun c => (c.stores key).isSome) key = lastUpdate calls key := by
  induction calls using List.reverseRecOn with
  | nil => rfl
  | append_singleton calls c ih =>
    rw [List.filter_append, lastUpdate_concat, ← ih]
    cases hc : c.stores key with
    | none => simp [hc]
    | some entry => simp [hc, lastUpdate_concat]

/-- A read at this time takes the entry for expired. -/
def Expired (expiryInterval now : ℤ) (entry : CacheEntry) : Prop :=
  0 < expiryInterval ∧ expiryInterval < now - entry.timestamp

theorem not_expired_iff {expiryInterval now : ℤ} {entry : CacheEntry} :
    ¬ Expired expiryInterval now entry ↔
      expiryInterval ≤ 0 ∨ now - entry.timestamp ≤ expiryInterval := by
  unfold Expired
  omega

theorem Expired.mono {expiryInterval now now' : ℤ} {entry : CacheEntry} (hle : now ≤ now')
    (h : Expired expiryInterval now entry) : Expired expiryInterval now' entry := by
  unfold Expired at *
  omega

theorem get_eq (authCache : InMemorySimpleCache) (now : ℤ) (key : String) :
    (authCache.cache key = none ∧ authCache.get now key = (none, authCache)) ∨
    (∃ entry, authCache.cache key = some entry ∧ Expired authCache.expiryInterval now entry ∧
      authCache.get now key =
        (none, { authCache with cache := Function.update authCache.cache key none })) ∨
    (∃ entry, authCache.cache key = some entry ∧ ¬ Expired authCache.expiryInterval now entry ∧
      authCache.get now key = (some entry.value, authCache)) := by
  unfold get Expired
  cases hentry : authCache.cache key with
  | none => exact Or.inl ⟨rfl, rfl⟩
  | some entry =>
    by_cases hexp : 0 < authCache.expiryInterval ∧ authCache.expiryInterval < now - entry.timestamp
    · exact Or.inr (Or.inl ⟨entry, rfl, hexp, if_pos hexp⟩)
    · exact Or.inr (Or.inr ⟨entry, rfl, hexp, if_neg hexp⟩)

/-- The cache has, for each key, what was stored last, or nothing where that is expired. -/
structure Refines (authCache : InMemorySimpleCache) (expiryInterval now : ℤ)
    (stored : String → Option CacheEntry) : Prop where
  interval : authCache.expiryInterval = expiryInterval
  entry : ∀ key, authCache.cache key = stored key ∨
    authCache.cache key = none ∧ ∀ entry, stored key = some entry → Expired expiryInterval now entry

variable {authCache : InMemorySimpleCache} {expiryInterval now : ℤ}
  {stored : String → Option CacheEntry}

theorem Refines.mono {now' : ℤ} (h : Refines authCache expiryInterval now stored)
    (hle : now ≤ now') : Refines authCache expiryInterval now' stored := by
  refine ⟨h.interval, fun key => ?_⟩
  rcases h.entry key with heq | ⟨hnone, hexp⟩
  · exact Or.inl heq
  · exact Or.inr ⟨hnone, fun entry hentry => (hexp entry hentry).mono hle⟩

/-- A read deletes what is expired. -/
theorem Refines.get (h : Refines authCache expiryInterval now stored) (key : String) :
    Refines (authCache.get now key).2 expiryInterval now stored := by
  rcases get_eq authCache now key with ⟨-, hget⟩ | ⟨entry, hentry, hexp, hget⟩ | ⟨entry, -, -, hget⟩
  · rw [hget]
    exact h
  · rw [hget]
    refine ⟨h.interval, fun key' => ?_⟩
    by_cases hkey : key' = key
    · subst hkey
      refine Or.inr ⟨Function.update_self .., fun entry' hentry' => ?_⟩
      rcases h.entry key' with heq | ⟨hnone, -⟩
      · rw [← heq, hentry] at hentry'
        cases hentry'
        exact h.interval ▸ hexp
      · rw [hnone] at hentry
        cases hentry
    · simp only [Function.update_of_ne hkey]
      exact h.entry key'
  · rw [hget]
    exact h

/-- An update is the last one of its key. -/
theorem Refines.update (h : Refines authCache expiryInterval now stored) (key value : String) :
    Refines (authCache.update now key value) expiryInterval now
      (Function.update stored key (some { timestamp := now, value := value })) := by
  refine ⟨h.interval, fun key' => ?_⟩
  by_cases hkey : key' = key
  · subst hkey
    exact Or.inl (by simp [InMemorySimpleCache.update])
  · simp only [InMemorySimpleCache.update, Function.update_of_ne hkey]
    exact h.entry key'

/-- What is read is the last update, unless it is expired. -/
theorem Refines.read_iff (h : Refines authCache expiryInterval now stored) {key value : String} :
    (authCache.get now key).1 = some value ↔
      ∃ entry, stored key = some entry ∧ entry.value = value ∧
        ¬ Expired expiryInterval now entry := by
  have hinterval := h.interval
  subst hinterval
  rcases get_eq authCache now key with ⟨hnone, hget⟩ | ⟨entry, hentry, hexp, hget⟩ |
    ⟨entry, hentry, hfresh, hget⟩
  · rw [hget]
    constructor
    · intro hvalue
      cases hvalue
    · rintro ⟨entry, hentry, -, hfresh⟩
      rcases h.entry key with heq | ⟨-, hexp⟩
      · rw [← heq, hnone] at hentry
        cases hentry
      · exact absurd (hexp entry hentry) hfresh
  all_goals
    have hstored : stored key = some entry := by
      rcases h.entry key with heq | ⟨hnone, -⟩
      · rw [← heq, hentry]
      · rw [hnone] at hentry
        cases hentry
    rw [hget, hstored]
  · constructor
    · intro hvalue
      cases hvalue
    · rintro ⟨entry', hentry', -, hfresh⟩
      cases hentry'
      exact absurd hexp hfresh
  · constructor
    · intro hvalue
      exact ⟨entry, rfl, Option.some.inj hvalue, hfresh⟩
    · rintro ⟨entry', hentry', rfl, -⟩
      cases hentry'
      rfl

theorem after_concat (expiryInterval : ℤ) (calls : List CacheCall) (c : CacheCall) :
    after expiryInterval (calls ++ [c]) = (after expiryInterval calls).perform c := by
  unfold after
  rw [List.foldl_append, List.foldl_cons, List.foldl_nil]

/-- One call. -/
theorem Refines.perform {calls : List CacheCall} {c : CacheCall}
    (h : Refines authCache expiryInterval c.time (lastUpdate calls)) :
    Refines (authCache.perform c) expiryInterval c.time (lastUpdate (calls ++ [c])) := by
  obtain ⟨time, op⟩ := c
  cases op with
  | get key =>
    have hstored : lastUpdate (calls ++ [⟨time, .get key⟩]) = lastUpdate calls := by
      funext key'
      rw [lastUpdate_concat]
      rfl
    rw [hstored]
    exact h.get key
  | update key value =>
    have hstored : lastUpdate (calls ++ [⟨time, .update key value⟩]) =
        Function.update (lastUpdate calls) key (some { timestamp := time, value := value }) := by
      funext key'
      rw [lastUpdate_concat, CacheCall.stores]
      by_cases hkey : key' = key
      · subst hkey
        simp
      · simp [hkey, Ne.symm hkey]
    rw [hstored]
    exact h.update key value

/-- Every history leaves a cache that has what was stored last. -/
theorem refines_after (expiryInterval : ℤ) {calls : List CacheCall}
    (ho : (calls.map CacheCall.time ++ [now]).Pairwise (· ≤ ·)) :
    Refines (after expiryInterval calls) expiryInterval now (lastUpdate calls) := by
  induction calls using List.reverseRecOn generalizing now with
  | nil => exact ⟨rfl, fun key => Or.inl rfl⟩
  | append_singleton calls c ih =>
    rw [List.map_append, List.append_assoc] at ho
    obtain ⟨hcalls, hlater, hle⟩ := List.pairwise_append.mp ho
    have hbefore : (calls.map CacheCall.time ++ [c.time]).Pairwise (· ≤ ·) := by
      refine List.pairwise_append.mpr ⟨hcalls, List.pairwise_singleton .., fun t ht t' ht' => ?_⟩
      exact hle t ht t' (List.mem_append_left _ ht')
    have hnow : c.time ≤ now := by
      simpa using hlater
    rw [after_concat]
    exact (ih hbefore).perform.mono hnow

/-- The updates of one key are a history of their own. -/
def CacheHistory.updatesOf (h : CacheHistory now) (key : String) : CacheHistory now where
  calls := h.calls.filter fun c => (c.stores key).isSome
  ordered := h.ordered.sublist ((List.filter_sublist.map _).append_right _)

/-- **A read answers from the last update of its key**: with the value stored then, if the interval
is not positive or no longer than it has passed since. It answers as if there had been nothing but
the updates of its key. -/
theorem get_after_iff (expiryInterval : ℤ) (h : CacheHistory now) (key : String) :
    (∀ value, ((after expiryInterval h.calls).get now key).1 = some value ↔
      ∃ t₀, lastUpdate h.calls key = some { timestamp := t₀, value := value } ∧
        (expiryInterval ≤ 0 ∨ now - t₀ ≤ expiryInterval)) ∧
    ((after expiryInterval h.calls).get now key).1 =
      ((after expiryInterval (h.updatesOf key).calls).get now key).1 := by
  have hread : ∀ (h : CacheHistory now) value,
      ((after expiryInterval h.calls).get now key).1 = some value ↔
        ∃ t₀, lastUpdate h.calls key = some { timestamp := t₀, value := value } ∧
          (expiryInterval ≤ 0 ∨ now - t₀ ≤ expiryInterval) := by
    intro h value
    rw [(refines_after expiryInterval h.ordered).read_iff]
    constructor
    · rintro ⟨⟨t₀, value⟩, hentry, rfl, hfresh⟩
      exact ⟨t₀, hentry, not_expired_iff.mp hfresh⟩
    · rintro ⟨t₀, hentry, hfresh⟩
      exact ⟨_, hentry, rfl, not_expired_iff.mpr hfresh⟩
  refine ⟨hread h, Option.ext fun value => ?_⟩
  rw [hread h, hread (h.updatesOf key)]
  unfold CacheHistory.updatesOf
  rw [lastUpdate_filter]

end TrinoGateway.InMemorySimpleCache
