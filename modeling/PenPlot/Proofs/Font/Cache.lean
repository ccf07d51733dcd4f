-- The laws of the cache of fonts. It holds what its provider loaded since the cache was last
-- cleared, so the provider is asked once for each font that it loads, and again for a font
-- that it failed to load.
import Mathlib.Data.List.Dedup
import Mathlib.Data.List.DropRight
import PenPlot.Font.Cache

namespace PenPlot.Font

variable {σ ε η : Type}

/-! ## What a load does -/

namespace Cache

variable {inner : Provider σ ε η} {hit : String → σ → σ} {c : Cache η} {s t : σ}
  {locator : String} {handle : η}

/-- What the cache holds is not asked for. -/
theorem load_held (h : c.find? locator = some handle) :
    load inner hit locator (c, s) = (.ok handle, c, hit locator s) := by
  simp only [load, h]

/-- What the cache does not hold is asked for, and kept if it comes. -/
theorem load_fetched (h : c.find? locator = none) (hinner : inner locator s = (.ok handle, t)) :
    load inner hit locator (c, s) = (.ok handle, c.insert locator handle, t) := by
  simp only [load, h, hinner]

theorem load_failed {e : ε} (h : c.find? locator = none)
    (hinner : inner locator s = (.error e, t)) :
    load inner hit locator (c, s) = (.error e, c, t) := by
  simp only [load, h, hinner]

/-! ## A steady provider -/

/-- The cache holds only what a provider with these answers would give. -/
def Agrees (answers : String → Except ε η) (c : Cache η) : Prop :=
  ∀ locator handle, c.find? locator = some handle → answers locator = .ok handle

theorem agrees_empty (answers : String → Except ε η) : Agrees answers .empty := by
  rintro locator handle ⟨⟩

theorem Agrees.insert {answers : String → Except ε η} (hc : c.Agrees answers)
    (h : answers locator = .ok handle) : (c.insert locator handle).Agrees answers := by
  intro other found hfound
  rw [find?_insert] at hfound
  cases hold : c.find? other with
  | some old =>
    rw [hold, Option.some_or] at hfound
    exact hc other found (hold.trans hfound)
  | none =>
    rw [hold, Option.none_or] at hfound
    by_cases hsame : locator = other
    · rw [if_pos hsame, Option.some.injEq] at hfound
      rw [← hsame, ← hfound, h]
    · rw [if_neg hsame] at hfound
      cases hfound

/-- A cache before a provider that does not change its answers is not noticed. -/
theorem Agrees.load {answers : String → Except ε η} (hc : c.Agrees answers)
    (hsteady : ∀ locator s, (inner locator s).1 = answers locator) (hit : String → σ → σ)
    (locator : String) (s : σ) :
    (load inner hit locator (c, s)).1 = answers locator ∧
      (load inner hit locator (c, s)).2.1.Agrees answers := by
  cases hfound : c.find? locator with
  | some handle =>
    rw [load_held hfound]
    exact ⟨(hc locator handle hfound).symm, hc⟩
  | none =>
    have hanswer := hsteady locator s
    rcases hinner : inner locator s with ⟨e | handle, t⟩
    · rw [load_failed hfound hinner]
      rw [hinner] at hanswer
      exact ⟨hanswer, hc⟩
    · rw [load_fetched hfound hinner]
      rw [hinner] at hanswer
      exact ⟨hanswer, hc.insert hanswer.symm⟩

end Cache

/-! ## A cache in use -/

/-- What is done with a cache. -/
inductive CacheUse where
  | load (locator : String)
  | clear

/-- What happened to a cache. Of a load this is what the provider was asked for and answered
meanwhile, and what came of the load. -/
inductive CacheEvent (ε η : Type) where
  | loaded (locator : String) (asked : List (String × Except ε η)) (answer : Except ε η)
  | cleared

/-- A provider that keeps, beside its state, what it was asked for and answered. -/
def Provider.recorded (inner : Provider σ ε η) :
    Provider (List (String × Except ε η) × σ) ε η :=
  fun locator (asked, s) =>
    let (answer, s) := inner locator s
    (answer, asked ++ [(locator, answer)], s)

/-- A cache in use: what happened to it so far, what it holds, and the state of its provider. -/
structure CacheRun (σ ε η : Type) where
  past : List (CacheEvent ε η)
  cache : Cache η
  state : σ

namespace CacheRun

variable (inner : Provider σ ε η) (hit : String → σ → σ) (swept : σ → σ)

/-- What the provider is asked for, and answers, when the cache loads what a locator names. -/
def asked (r : CacheRun σ ε η) (locator : String) : List (String × Except ε η) :=
  (Cache.load inner.recorded (fun locator s => (s.1, hit locator s.2)) locator
    (r.cache, [], r.state)).2.2.1

/-- The cache is used once more. When it is cleared, its provider may take note of that. -/
def use (r : CacheRun σ ε η) : CacheUse → CacheRun σ ε η
  | .load locator =>
    let (answer, cache, state) := Cache.load inner hit locator (r.cache, r.state)
    ⟨r.past ++ [.loaded locator (r.asked inner hit locator) answer], cache, state⟩
  | .clear => ⟨r.past ++ [.cleared], .empty, swept r.state⟩

/-- An empty cache is used again and again. -/
def after (s : σ) (uses : List CacheUse) : CacheRun σ ε η :=
  uses.foldl (use inner hit swept) ⟨[], .empty, s⟩

theorem after_concat (s : σ) (uses : List CacheUse) (u : CacheUse) :
    after inner hit swept s (uses ++ [u]) = (after inner hit swept s uses).use inner hit swept u :=
  List.foldl_concat ..

/-- What a load does: the font is there, or the provider loads it, or the provider fails. -/
inductive Loads (r : CacheRun σ ε η) (locator : String) : CacheRun σ ε η → Prop
  | held {handle : η} (hheld : r.cache.find? locator = some handle) :
      Loads r locator
        ⟨r.past ++ [.loaded locator [] (.ok handle)], r.cache, hit locator r.state⟩
  | fetched {handle : η} {s : σ} (hnone : r.cache.find? locator = none)
      (hinner : inner locator r.state = (.ok handle, s)) :
      Loads r locator
        ⟨r.past ++ [.loaded locator [(locator, .ok handle)] (.ok handle)],
          r.cache.insert locator handle, s⟩
  | failed {e : ε} {s : σ} (hnone : r.cache.find? locator = none)
      (hinner : inner locator r.state = (.error e, s)) :
      Loads r locator
        ⟨r.past ++ [.loaded locator [(locator, .error e)] (.error e)], r.cache, s⟩

theorem asked_held {r : CacheRun σ ε η} {locator : String} {handle : η}
    (h : r.cache.find? locator = some handle) : r.asked inner hit locator = [] := by
  rw [asked, Cache.load_held h]

/-- The provider is asked once, for what is to be loaded. -/
theorem asked_missing {r : CacheRun σ ε η} {locator : String} (h : r.cache.find? locator = none) :
    r.asked inner hit locator = [(locator, (inner locator r.state).1)] := by
  unfold asked
  rcases hinner : inner locator r.state with ⟨answer, s⟩
  have hrecorded : inner.recorded locator ([], r.state) = (answer, [(locator, answer)], s) := by
    simp only [Provider.recorded, hinner, List.nil_append]
  cases answer with
  | error e => rw [Cache.load_failed h hrecorded]
  | ok handle => rw [Cache.load_fetched h hrecorded]

theorem use_load (r : CacheRun σ ε η) (locator : String) :
    Loads inner hit r locator (r.use inner hit swept (.load locator)) := by
  unfold use
  cases hfound : r.cache.find? locator with
  | some handle =>
    simp only [Cache.load_held hfound, asked_held inner hit hfound]
    exact .held hfound
  | none =>
    rcases hinner : inner locator r.state with ⟨e | handle, s⟩
    · simp only [Cache.load_failed hfound hinner, asked_missing inner hit hfound, hinner]
      exact .failed hfound hinner
    · simp only [Cache.load_fetched hfound hinner, asked_missing inner hit hfound, hinner]
      exact .fetched hfound hinner

end CacheRun

/-! ## What the past tells -/

namespace CacheEvent

/-- Whether the cache was cleared. -/
def isCleared : CacheEvent ε η → Bool
  | .cleared => true
  | .loaded .. => false

/-- The locator of a load that came to a font. -/
def success? : CacheEvent ε η → Option String
  | .loaded locator _ (.ok _) => some locator
  | _ => none

/-- What the provider loaded, by locator. -/
def obtained : CacheEvent ε η → List (String × η)
  | .loaded _ asked _ => asked.filterMap fun (locator, answer) => answer.toOption.map (locator, ·)
  | .cleared => []

end CacheEvent

/-- What happened since the cache was last cleared. -/
def sinceCleared (past : List (CacheEvent ε η)) : List (CacheEvent ε η) :=
  past.rtakeWhile fun e => !e.isCleared

/-- The locators that were loaded since the cache was last cleared, as often as they were. -/
def loadedSince (past : List (CacheEvent ε η)) : List String :=
  (sinceCleared past).filterMap CacheEvent.success?

/-- What the provider loaded since the cache was last cleared, in order. -/
def obtainedSince (past : List (CacheEvent ε η)) : List (String × η) :=
  (sinceCleared past).flatMap CacheEvent.obtained

/-- What the provider loaded first under a locator since the cache was last cleared. -/
def firstObtained? (past : List (CacheEvent ε η)) (locator : String) : Option η :=
  ((obtainedSince past).find? fun e => e.1 == locator).map Prod.snd

section Past

variable {past : List (CacheEvent ε η)} {locator : String} {asked : List (String × Except ε η)}
  {answer : Except ε η}

theorem sinceCleared_cleared : sinceCleared (past ++ [.cleared]) = [] :=
  List.rtakeWhile_concat_neg _ _ _ (by simp [CacheEvent.isCleared])

theorem sinceCleared_loaded : sinceCleared (past ++ [.loaded locator asked answer]) =
    sinceCleared past ++ [.loaded locator asked answer] :=
  List.rtakeWhile_concat_pos _ _ _ rfl

theorem loadedSince_loaded : loadedSince (past ++ [.loaded locator asked answer]) =
    loadedSince past ++ (CacheEvent.loaded locator asked answer).success?.toList := by
  unfold loadedSince
  rw [sinceCleared_loaded, List.filterMap_append]
  cases answer <;> rfl

theorem obtainedSince_loaded : obtainedSince (past ++ [.loaded locator asked answer]) =
    obtainedSince past ++ (CacheEvent.loaded locator asked answer).obtained := by
  unfold obtainedSince
  rw [sinceCleared_loaded, List.flatMap_append, List.flatMap_singleton]

end Past

/-! ## What the cache holds -/

/-- The locators under which a cache holds something. -/
def Cache.locators (c : Cache η) : List String := c.entries.map Prod.fst

theorem Cache.mem_locators_iff (c : Cache η) (locator : String) :
    locator ∈ c.locators ↔ ∃ handle, c.find? locator = some handle := by
  unfold locators find?
  cases h : c.entries.find? fun e => e.1 == locator with
  | none =>
    have hnone : locator ∉ c.entries.map Prod.fst := by
      simpa using fun handle hmem => List.find?_eq_none.mp h (locator, handle) hmem
    simp [hnone]
  | some entry =>
    have hlocator : entry.1 = locator := by simpa using List.find?_some h
    have hmem := List.mem_map_of_mem (f := Prod.fst) (List.mem_of_find?_eq_some h)
    exact ⟨fun _ => ⟨entry.2, rfl⟩, fun _ => hlocator ▸ hmem⟩

theorem Cache.locators_insert (c : Cache η) (locator : String) (handle : η) :
    (c.insert locator handle).locators = c.locators ++ [locator] := by
  simp [locators, insert]

/-- A cache holds what its provider loaded since the cache was last cleared, each locator once. -/
structure Remembers (past : List (CacheEvent ε η)) (c : Cache η) : Prop where
  entries : c.entries = obtainedSince past
  loaded : ∀ locator, locator ∈ c.locators ↔ locator ∈ loadedSince past
  once : c.locators.Nodup

namespace Remembers

variable {past : List (CacheEvent ε η)} {c : Cache η} {locator : String}

theorem find?_eq (h : Remembers past c) (locator : String) :
    c.find? locator = firstObtained? past locator := by
  unfold Cache.find? firstObtained?
  rw [h.entries]

/-- There is one entry for each locator that was loaded. -/
theorem size_eq (h : Remembers past c) : c.size = (loadedSince past).dedup.length := by
  have hperm : c.locators.Perm (loadedSince past).dedup := by
    refine (List.perm_ext_iff_of_nodup h.once (List.nodup_dedup _)).mpr fun locator => ?_
    rw [h.loaded, List.mem_dedup]
  rw [← hperm.length_eq, Cache.locators, List.length_map]
  rfl

theorem cleared (past : List (CacheEvent ε η)) :
    Remembers (past ++ [.cleared]) (.empty : Cache η) where
  entries := by
    rw [obtainedSince, sinceCleared_cleared]
    rfl
  loaded locator := by
    rw [loadedSince, sinceCleared_cleared]
    rfl
  once := List.nodup_nil

theorem held (h : Remembers past c) {handle : η} (hheld : c.find? locator = some handle) :
    Remembers (past ++ [.loaded locator [] (.ok handle)]) c where
  entries := by
    rw [obtainedSince_loaded, h.entries]
    exact (List.append_nil _).symm
  loaded other := by
    have hmem : locator ∈ loadedSince past :=
      (h.loaded locator).mp ((c.mem_locators_iff locator).mpr ⟨handle, hheld⟩)
    rw [loadedSince_loaded, h.loaded, List.mem_append]
    refine ⟨Or.inl, fun hother => hother.elim id fun hsame => ?_⟩
    rwa [List.mem_singleton.mp hsame]
  once := h.once

theorem fetched (h : Remembers past c) (hnone : c.find? locator = none) (handle : η) :
    Remembers (past ++ [.loaded locator [(locator, .ok handle)] (.ok handle)])
      (c.insert locator handle) where
  entries := by
    rw [obtainedSince_loaded, Cache.insert, h.entries]
    rfl
  loaded other := by
    rw [loadedSince_loaded, Cache.locators_insert, List.mem_append, List.mem_append, h.loaded]
    rfl
  once := by
    have hnew : locator ∉ c.locators := by
      rw [Cache.mem_locators_iff, hnone]
      rintro ⟨_, ⟨⟩⟩
    rw [Cache.locators_insert]
    exact List.concat_eq_append ▸ h.once.concat hnew

theorem failed (h : Remembers past c) (e : ε) :
    Remembers (past ++ [.loaded locator [(locator, .error e)] (.error e)]) c where
  entries := by
    rw [obtainedSince_loaded, h.entries]
    exact (List.append_nil _).symm
  loaded other := by
    rw [loadedSince_loaded, h.loaded]
    exact (List.append_nil _).symm ▸ Iff.rfl
  once := h.once

end Remembers

namespace CacheRun

variable {inner : Provider σ ε η} {hit : String → σ → σ} {swept : σ → σ} {r : CacheRun σ ε η}

theorem remembers_use (h : Remembers r.past r.cache) (u : CacheUse) :
    Remembers (r.use inner hit swept u).past (r.use inner hit swept u).cache := by
  cases u with
  | clear => exact .cleared r.past
  | load locator =>
    have hload := use_load inner hit swept r locator
    generalize r.use inner hit swept (.load locator) = next at hload ⊢
    cases hload with
    | held hheld => exact h.held hheld
    | fetched hnone _ => exact h.fetched hnone _
    | failed _ _ => exact h.failed _

/-- However a cache is used, it holds what was loaded since it was last cleared. -/
theorem remembers_after (s : σ) (uses : List CacheUse) :
    Remembers (after inner hit swept s uses).past (after inner hit swept s uses).cache := by
  induction uses using List.reverseRecOn with
  | nil => exact ⟨rfl, fun _ => Iff.rfl, List.nodup_nil⟩
  | append_singleton uses u ih =>
    rw [after_concat]
    exact remembers_use ih u

theorem find?_eq_none_iff (h : Remembers r.past r.cache) (locator : String) :
    r.cache.find? locator = none ↔ locator ∉ loadedSince r.past := by
  rw [← h.loaded, Cache.mem_locators_iff]
  cases r.cache.find? locator <;> simp

/-- Only a load of a locator adds to the times that it was loaded. -/
theorem not_mem_loadedSince_use {locator : String} (h : locator ∉ loadedSince r.past)
    {u : CacheUse} (hother : u ≠ .load locator) :
    locator ∉ loadedSince (r.use inner hit swept u).past := by
  cases u with
  | clear =>
    have hnil : loadedSince (r.use inner hit swept .clear).past = [] :=
      congrArg (List.filterMap _) sinceCleared_cleared
    rw [hnil]
    exact List.not_mem_nil
  | load other =>
    have hne : locator ≠ other := fun hsame => hother (hsame ▸ rfl)
    have hload := use_load inner hit swept r other
    generalize r.use inner hit swept (.load other) = next at hload ⊢
    cases hload <;> simp [loadedSince_loaded, CacheEvent.success?, h, hne]

theorem not_mem_loadedSince_uses {locator : String} {uses more : List CacheUse} {s : σ}
    (h : locator ∉ loadedSince (after inner hit swept s uses).past)
    (hmore : .load locator ∉ more) :
    locator ∉ loadedSince (after inner hit swept s (uses ++ more)).past := by
  induction more using List.reverseRecOn with
  | nil => rwa [List.append_nil]
  | append_singleton more u ih =>
    obtain ⟨hearlier, hlast⟩ : .load locator ∉ more ∧ .load locator ∉ [u] := by
      simpa [not_or] using hmore
    rw [← List.append_assoc, after_concat]
    refine not_mem_loadedSince_use (ih hearlier) fun hsame => hlast ?_
    exact List.mem_singleton.mpr hsame.symm

/-- Until the locator is loaded again, the provider is to be asked for it. -/
theorem asked_of_not_loaded {locator : String} {uses more : List CacheUse} {s : σ}
    (h : locator ∉ loadedSince (after inner hit swept s uses).past)
    (hmore : .load locator ∉ more) : ∃ again,
      (after inner hit swept s (uses ++ more)).asked inner hit locator = [(locator, again)] := by
  have hnone := (find?_eq_none_iff (remembers_after s (uses ++ more)) locator).mpr
    (not_mem_loadedSince_uses h hmore)
  exact ⟨_, asked_missing inner hit hnone⟩

/-! ## The law -/

/-- However a cache is used, it holds as many fonts as there are locators that were loaded since it
was last cleared. For those the provider is not asked again, and for any other it is asked once, and
the load comes to its answer. A font that comes is the first that the provider loaded under this
locator since then. A failure leaves the cache as it is, and so the provider is asked when the
locator is next loaded. -/
theorem the_cache_asks_for_what_was_not_loaded (inner : Provider σ ε η) (hit : String → σ → σ)
    (swept : σ → σ) (s : σ) (uses : List CacheUse) :
    let r := after inner hit swept s uses
    r.cache.size = (loadedSince r.past).dedup.length ∧
    ∀ locator, ∃ asked answer,
      let next := r.use inner hit swept (.load locator)
      next.past = r.past ++ [.loaded locator asked answer] ∧
      (locator ∈ loadedSince r.past → asked = [] ∧ next.state = hit locator r.state) ∧
      (locator ∉ loadedSince r.past →
        asked = [(locator, answer)] ∧ inner locator r.state = (answer, next.state)) ∧
      (∀ handle, answer = .ok handle → firstObtained? next.past locator = some handle) ∧
      ∀ e, answer = .error e → asked = [(locator, .error e)] ∧ next.cache = r.cache ∧
        ∀ more, .load locator ∉ more → ∃ again,
          (after inner hit swept s (uses ++ .load locator :: more)).asked inner hit locator =
            [(locator, again)] := by
  intro r
  have hr : Remembers r.past r.cache := remembers_after s uses
  refine ⟨hr.size_eq, fun locator => ?_⟩
  have hmissing := find?_eq_none_iff hr locator
  have hnext : Remembers (r.use inner hit swept (.load locator)).past
      (r.use inner hit swept (.load locator)).cache := remembers_use hr (.load locator)
  have hafter : r.use inner hit swept (.load locator) =
      after inner hit swept s (uses ++ [.load locator]) := (after_concat ..).symm
  have hload := use_load inner hit swept r locator
  generalize r.use inner hit swept (.load locator) = next at hload hnext hafter ⊢
  cases hload with
  | @held handle hheld =>
    have hmem : locator ∈ loadedSince r.past := by
      by_contra hnot
      rw [hmissing.mpr hnot] at hheld
      cases hheld
    refine ⟨[], .ok handle, rfl, fun _ => ⟨rfl, rfl⟩, fun hnot => absurd hmem hnot, ?_, ?_⟩
    · rintro _ ⟨⟩
      rw [← hnext.find?_eq]
      exact hheld
    · rintro e ⟨⟩
  | @fetched handle t hnone hinner =>
    refine ⟨_, .ok handle, rfl, fun hmem => absurd hmem (hmissing.mp hnone),
      fun _ => ⟨rfl, hinner⟩, ?_, ?_⟩
    · rintro _ ⟨⟩
      rw [← hnext.find?_eq, Cache.find?_insert, hnone, Option.none_or, if_pos rfl]
    · rintro e ⟨⟩
  | @failed e t hnone hinner =>
    refine ⟨_, .error e, rfl, fun hmem => absurd hmem (hmissing.mp hnone),
      fun _ => ⟨rfl, hinner⟩, ?_, ?_⟩
    · rintro handle ⟨⟩
    · rintro _ ⟨⟩
      refine ⟨rfl, rfl, fun more hmore => ?_⟩
      have hnot := (find?_eq_none_iff hnext locator).mp hnone
      rw [hafter] at hnot
      rw [List.append_cons]
      exact asked_of_not_loaded hnot hmore

/-- A provider that fails the first time and then gives the number of its earlier calls. -/
def slowStarter : Provider Nat Unit Nat :=
  fun _ calls => (if calls = 0 then .error () else .ok calls, calls + 1)

/-- The first load fails and is tried again; then only what was not loaded yet is asked for. -/
theorem a_failed_load_is_tried_again :
    let r := after slowStarter (fun _ calls => calls) id 0 [.load "a", .load "a", .load "b"]
    "a" ∈ loadedSince r.past ∧ "c" ∉ loadedSince r.past ∧ r.cache.size = 2 ∧
      (∃ answer, (r.use slowStarter (fun _ calls => calls) id (.load "a")).past =
        r.past ++ [.loaded "a" [] answer]) ∧
      ∃ answer, (r.use slowStarter (fun _ calls => calls) id (.load "c")).past =
        r.past ++ [.loaded "c" [("c", answer)] answer] := by
  intro r
  obtain ⟨hsize, hload⟩ := the_cache_asks_for_what_was_not_loaded slowStarter
    (fun _ calls => calls) id 0 [.load "a", .load "a", .load "b"]
  have ha : "a" ∈ loadedSince r.past := by decide +kernel
  have hc : "c" ∉ loadedSince r.past := by decide +kernel
  obtain ⟨asked, answer, hpast, hheld, -⟩ := hload "a"
  obtain ⟨asked', answer', hpast', -, hasked, -⟩ := hload "c"
  have htwo : (loadedSince r.past).dedup.length = 2 := by decide +kernel
  rw [(hheld ha).1] at hpast
  rw [(hasked hc).1] at hpast'
  exact ⟨ha, hc, hsize.trans htwo, ⟨answer, hpast⟩, answer', hpast'⟩

end CacheRun

end PenPlot.Font
