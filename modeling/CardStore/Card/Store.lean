/-
  CardStore.Card.Store
  ────────────────────
  **WHERE CARDS COME FROM, AND THE CACHE OF THEM.**

  Cards come from a list of descriptors or from the tables of a database.
  The store keeps every card that has been loaded once and was found sound,
  and nothing else: what is cached is sound by its type.
  A load reads the cache, asks the source, and keeps the answer; when another
  load of the same name was faster, its card stays and is the answer of both.

  Main statements:
    * `cached?_keep` — what the cache holds after keeping a card.
    * `cached?_invalidate` — and after dropping one.
-/
import CardStore.Card.Wire

namespace CardStore

/-- Where cards come from. -/
inductive CardSource where
  | descriptors (cards : OrderedMap Card)
  /-- The card tables of a database. -/
  | database (name : String)

/-- The source of a list of descriptors; the last one of a name counts. -/
def CardSource.ofCards (cards : List Card) : CardSource :=
  .descriptors (.ofList (cards.map fun c => (c.name, c)))

/-- The source and the cache of cards. -/
structure Card.Store where
  source : CardSource
  cache : OrderedMap SoundCard
  /-- How often the descriptors have been asked. -/
  lookups : Nat

namespace Card.Store

def ofSource (source : CardSource) : Card.Store := ⟨source, .empty, 0⟩

instance : Inhabited Card.Store := ⟨ofSource (.ofCards [])⟩

/-- The cached card of a name. -/
def cached? (s : Card.Store) (name : String) : Option SoundCard := s.cache.get? name

/-- Keep a card under a name unless there is one already; the card that stays is the answer. -/
def keep (s : Card.Store) (name : String) (card : SoundCard) :
    SoundCard × Card.Store :=
  match s.cached? name with
  | some earlier => (earlier, s)
  | none => (card, { s with cache := s.cache.set name card })

/-- Drop the card of a name; whether there was one. -/
def invalidate (s : Card.Store) (name : String) : Bool × Card.Store :=
  (s.cache.contains name, { s with cache := s.cache.erase name })

/-- Drop all cards. -/
def clear (s : Card.Store) : Card.Store := { s with cache := .empty }

/-- The number of cached cards. -/
def size (s : Card.Store) : Nat := s.cache.size

theorem cached?_keep (s : Card.Store) (name other : String) (card : SoundCard) :
    (s.keep name card).2.cached? other
      = if other = name then some (s.keep name card).1 else s.cached? other := by
  rw [keep]
  cases h : s.cached? name with
  | some earlier =>
    by_cases ho : other = name
    · simp [ho, h]
    · simp [ho]
  | none => exact OrderedMap.get?_set s.cache name other card

theorem cached?_invalidate (s : Card.Store) (name other : String) :
    (s.invalidate name).2.cached? other = if other = name then none else s.cached? other :=
  OrderedMap.get?_erase s.cache name other

end Card.Store

end CardStore
