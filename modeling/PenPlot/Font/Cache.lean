-- A cache of fonts. It stands before any provider, keeps what the provider
-- loaded, and asks again only for what it does not hold; a failure is not kept.

namespace PenPlot.Font

/-- A provider loads what a locator names, or fails; it may change its own
state with every load. -/
abbrev Provider (σ ε η : Type) := String → σ → Except ε η × σ

/-- What was loaded, by locator. -/
structure Cache (η : Type) where
  entries : List (String × η)

namespace Cache

variable {σ ε η : Type}

/-- A cache that holds nothing. -/
def empty : Cache η := ⟨[]⟩

/-- What the cache holds under a locator. -/
def find? (c : Cache η) (locator : String) : Option η :=
  (c.entries.find? fun e => e.1 == locator).map Prod.snd

/-- The number of locators under which the cache holds something. -/
def size (c : Cache η) : Nat := c.entries.length

/-- The cache with something more in it. -/
def insert (c : Cache η) (locator : String) (handle : η) : Cache η :=
  ⟨c.entries ++ [(locator, handle)]⟩

/-- What was put in first under a locator is what the cache holds. -/
theorem find?_insert (c : Cache η) (locator other : String) (handle : η) :
    (c.insert locator handle).find? other =
      (c.find? other).or (if locator = other then some handle else none) := by
  unfold find? insert
  cases h : c.entries.find? fun e => e.1 == other <;> by_cases same : locator = other <;>
    simp [List.find?_append, h, same]

/-- Loads through the cache; `hit` notes that the provider was not asked. -/
def load (inner : Provider σ ε η) (hit : String → σ → σ) : Provider (Cache η × σ) ε η :=
  fun locator (c, s) =>
    match c.find? locator with
    | some handle => (.ok handle, c, hit locator s)
    | none =>
      match inner locator s with
      | (.ok handle, s) => (.ok handle, c.insert locator handle, s)
      | (.error e, s) => (.error e, c, s)

end Cache

end PenPlot.Font
