import Mathlib.Logic.Function.Basic
import Mathlib.Logic.Relation

/-!
# Foundation - A book of settlements

Work items are opened, and settled at most once.  Settling an item writes a
receipt, a usage record and ledger entries that pay for it.  The book is sound
when every settled item is paid exactly once and nothing refers to any other.

Main results:

- Theorem {lit}`Step.sound`: opening and settling keep a book sound.
- Theorem {lit}`Sound.entries_ne_nil_iff`: an item has entries exactly when it is
  settled.
-/

namespace TokenStreaming
namespace SettlementBook

/-- What a book tells about every id. -/
@[ext]
structure Book (Id Item Entry : Type) where
  item : Id → Option Item
  receipts : Id → Nat
  records : Id → Nat
  entries : Id → List Entry

variable {Id Item Entry : Type}

/-- Nothing refers to the id. -/
structure Book.Clean (book : Book Id Item Entry) (id : Id) : Prop where
  receipts : book.receipts id = 0
  records : book.records id = 0
  entries : book.entries id = []

/-- The item under the id is paid exactly once. -/
structure Book.Paid (Pays : Item → List Entry → Prop) (book : Book Id Item Entry) (id : Id)
    (item : Item) : Prop where
  receipts : book.receipts id = 1
  records : book.records id = 1
  entries : Pays item (book.entries id)

/-- Settled items are paid, and nothing refers to any other id. -/
structure Sound (Settled : Item → Prop) (Pays : Item → List Entry → Prop)
    (book : Book Id Item Entry) : Prop where
  paid : ∀ id item, book.item id = some item → Settled item → book.Paid Pays id item
  clean : ∀ id, (∀ item, book.item id = some item → ¬Settled item) → book.Clean id

section Steps

variable [DecidableEq Id] {Settled : Item → Prop} {Pays : Item → List Entry → Prop}

/-- The moves of a book. -/
inductive Step (Settled : Item → Prop) (Pays : Item → List Entry → Prop) :
    Book Id Item Entry → Book Id Item Entry → Prop
  | opening (book : Book Id Item Entry) (id : Id) (item : Item) (hnew : book.item id = none)
      (hunsettled : ¬Settled item) :
      Step Settled Pays book { book with item := Function.update book.item id (some item) }
  | settle (book : Book Id Item Entry) (id : Id) (item settled : Item) (added : List Entry)
      (hitem : book.item id = some item) (hunsettled : ¬Settled item) (hsettled : Settled settled)
      (hpays : Pays settled added) :
      Step Settled Pays book
        { item := Function.update book.item id (some settled)
          receipts := Function.update book.receipts id (book.receipts id + 1)
          records := Function.update book.records id (book.records id + 1)
          entries := Function.update book.entries id (book.entries id ++ added) }

/-- The moves of a book keep it sound. -/
theorem Step.sound {book book' : Book Id Item Entry} (h : Step Settled Pays book book')
    (hsound : Sound Settled Pays book) : Sound Settled Pays book' := by
  cases h with
  | opening id item hnew hunsettled =>
      have hclean : book.Clean id := hsound.clean id (by simp [hnew])
      refine ⟨fun other stored hstored hsettled => ?_, fun other hopen => ?_⟩
      · by_cases hid : other = id
        · subst hid
          simp only [Function.update_self, Option.some.injEq] at hstored
          exact absurd (hstored ▸ hsettled) hunsettled
        · simp only [Function.update_of_ne hid] at hstored
          have hpaid := hsound.paid other stored hstored hsettled
          exact ⟨hpaid.receipts, hpaid.records, hpaid.entries⟩
      · by_cases hid : other = id
        · subst hid
          exact ⟨hclean.receipts, hclean.records, hclean.entries⟩
        · simp only [Function.update_of_ne hid] at hopen
          have hother := hsound.clean other hopen
          exact ⟨hother.receipts, hother.records, hother.entries⟩
  | settle id item settled added hitem hunsettled hsettled hpays =>
      have hclean : book.Clean id := by
        refine hsound.clean id fun stored hstored => ?_
        rw [hitem] at hstored
        exact Option.some.inj hstored ▸ hunsettled
      refine ⟨fun other stored hstored hother => ?_, fun other hopen => ?_⟩
      · by_cases hid : other = id
        · subst hid
          simp only [Function.update_self, Option.some.injEq] at hstored
          subst hstored
          refine ⟨?_, ?_, ?_⟩
          · simp [hclean.receipts]
          · simp [hclean.records]
          · simpa [hclean.entries] using hpays
        · simp only [Function.update_of_ne hid] at hstored
          have hpaid := hsound.paid other stored hstored hother
          refine ⟨?_, ?_, ?_⟩
          · simpa [Function.update_of_ne hid] using hpaid.receipts
          · simpa [Function.update_of_ne hid] using hpaid.records
          · simpa [Function.update_of_ne hid] using hpaid.entries
      · by_cases hid : other = id
        · subst hid
          exact absurd hsettled (hopen settled (by simp))
        · simp only [Function.update_of_ne hid] at hopen
          have hother := hsound.clean other hopen
          refine ⟨?_, ?_, ?_⟩
          · simpa [Function.update_of_ne hid] using hother.receipts
          · simpa [Function.update_of_ne hid] using hother.records
          · simpa [Function.update_of_ne hid] using hother.entries

end Steps

section Sound

variable {Settled : Item → Prop} {Pays : Item → List Entry → Prop} {book : Book Id Item Entry}

/-- An unsettled item has left no trace. -/
theorem Sound.clean_of_unsettled (h : Sound Settled Pays book) {id : Id} {item : Item}
    (hitem : book.item id = some item) (hunsettled : ¬Settled item) : book.Clean id := by
  refine h.clean id fun stored hstored => ?_
  rw [hitem] at hstored
  exact Option.some.inj hstored ▸ hunsettled

/-- A receipt tells that the item under its id is settled. -/
theorem Sound.settled_of_receipts (h : Sound Settled Pays book) {id : Id}
    (hreceipts : book.receipts id ≠ 0) : ∃ item, book.item id = some item ∧ Settled item := by
  by_contra hnone
  simp only [not_exists, not_and] at hnone
  exact hreceipts (h.clean id hnone).receipts

/-- An item has entries exactly when it is settled. -/
theorem Sound.entries_ne_nil_iff (h : Sound Settled Pays book)
    (hpays : ∀ item entries, Pays item entries → entries ≠ []) {id : Id} {item : Item}
    (hitem : book.item id = some item) : book.entries id ≠ [] ↔ Settled item := by
  constructor
  · intro hentries
    by_contra hunsettled
    exact hentries (h.clean_of_unsettled hitem hunsettled).entries
  · intro hsettled
    exact hpays item _ (h.paid id item hitem hsettled).entries

end Sound

end SettlementBook
end TokenStreaming
