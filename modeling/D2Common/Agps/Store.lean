import D2Common.Agps.Transitions
import D2Common.Foundations.Lookups

/-
  The subscriber list as records in memory.

  The list holds pointers, and `notifySubscribers` deletes
  each record that it has taken from the list. The receiver
  of a notification is a pointer as well, and on a leave it
  is one of the list. The file keeps the records apart from
  what they contain, and says when a leave looks up only
  records that are still there.

  Key definitions include:
    * `Records`
    * `Records.notifySubscribers`
    * `Records.onUnsubscribe`

  Key theorems include:
    * `Records.onUnsubscribe_refines`
    * `Records.lookups_live_iff`
-/

------------------------------------------------------------
-- Records
------------------------------------------------------------

namespace D2Common

namespace Agps

open Lookups

/-
  What is in memory: the contents of each record, whether it
  is still there, and the pointers on `mSubscribers`. Each
  record of the list is its own clone and has not been
  deleted.
-/
structure Records (A : Type) where
  record : A → Subscriber
  live : A → Bool
  mSubscribers : List A
  nodup : mSubscribers.Nodup
  all_live : ∀ a ∈ mSubscribers, live a = true

namespace Records

variable {A : Type}

/- The list as the machine's transitions see it. -/
def subscribers
    (r : Records A) : List Subscriber :=
  r.mSubscribers.map r.record

/- The record that `unsubscribeRsrc` finds for a client. -/
def findSubscriber
    (r : Records A)
    (subscriber : Subscriber) : Option A :=
  r.mSubscribers.find? fun a =>
    (r.record a).equals subscriber

/- A record takes a notification for the receiver. -/
def forMe
    (r : Records A)
    (rcver a : A) : Bool :=
  (r.record a).equals (r.record rcver)

/- A notification with deletion, and all it looks up. -/
def notifySubscribers
    [DecidableEq A]
    (r : Records A)
    (rcver : A) : List A × List (Lookup A) :=
  drainLog (r.forMe rcver) rcver
    (r.mSubscribers.length + 1) r.live r.mSubscribers

/- `setInactive` keeps the list and asks no other record. -/
def leave
    [DecidableEq A]
    (r : Records A)
    (subscriber : A) : List A × List (Lookup A) :=
  if (r.record subscriber).waitForCloseComplete then
    (r.mSubscribers, [])
  else
    r.notifySubscribers subscriber

/-
  RSRC_UNSUBSCRIBE for a record of the list. Released tells
  the record directly, without `notifySubscribers`.
-/
def onUnsubscribe
    [DecidableEq A]
    (r : Records A)
    (st : AgpsState)
    (subscriber : A) : List A × List (Lookup A) :=
  match st with
  | .released => (r.mSubscribers, [])
  | .pending => r.leave subscriber
  | .acquired => r.leave subscriber
  | .releasing => r.leave subscriber

theorem subscribers_filter
    (r : Records A)
    (rcver : A) :
    (r.mSubscribers.filter (fun a => !r.forMe rcver a)).map
        r.record =
      r.subscribers.filter
        (fun t => !t.equals (r.record rcver)) := by
  unfold subscribers
  rw [List.filter_map]
  rfl

/- A machine with the contents of the list. -/
def Represents
    (r : Records A)
    (sm : AgpsStateMachine) : Prop :=
  sm.mSubscribers = r.subscribers

/-
  The pointers left on the list are those of the records
  that the machine's transition keeps.
-/
theorem onUnsubscribe_refines
    [DecidableEq A]
    {r : Records A}
    {x : Exec}
    {s : A}
    (hRep : r.Represents x.sm)
    (hWaits : (r.record s).waitForCloseComplete = false) :
    (x.dispatch (.unsubscribe (r.record s))).sm.mSubscribers =
      (r.onUnsubscribe x.sm.mStatePtr s).1.map r.record := by
  have hLeave :
      (r.leave s).1.map r.record =
        Roster.left (r.record s) x.sm.mSubscribers := by
    unfold leave Roster.left
    rw [if_neg (by simp [hWaits]), if_neg (by simp [hWaits])]
    unfold notifySubscribers
    rw [drainLog_rest _ _ _ _ _ (Nat.lt_succ_self _),
      subscribers_filter, hRep]
  have hMove :=
    Roster.mSubscribers_move_unsubscribe x.sm x.env
      (r.record s)
  rw [Exec.dispatch_eq]
  unfold onUnsubscribe
  cases hState : x.sm.mStatePtr with
  | released =>
      simp only [Exec.after, Roster.move, hState]
      exact hRep
  | pending =>
      exact (hMove (by simp [hState])).trans hLeave.symm
  | acquired =>
      exact (hMove (by simp [hState])).trans hLeave.symm
  | releasing =>
      exact (hMove (by simp [hState])).trans hLeave.symm

end Records

end Agps

end D2Common

------------------------------------------------------------
-- Records That Are Still There
------------------------------------------------------------

namespace D2Common

namespace Agps

open Lookups

namespace Records

variable {A : Type}

theorem leave_eq_of_not_released
    [DecidableEq A]
    (r : Records A)
    {st : AgpsState}
    (hState : st ≠ .released)
    (s : A) :
    r.onUnsubscribe st s = r.leave s := by
  cases st with
  | released => exact absurd rfl hState
  | pending => rfl
  | acquired => rfl
  | releasing => rfl

/-
  The receiver is deleted in the middle of its own
  notification. All that is looked up is still there if and
  only if it is the last on the list, and every record
  before it has been taken from the list for it.
-/
theorem lookups_live_iff
    [DecidableEq A]
    (r : Records A)
    (st : AgpsState)
    (s : A)
    (hOn : s ∈ r.mSubscribers)
    (hWaits : (r.record s).waitForCloseComplete = false)
    (hState : st ≠ .released) :
    AllLive (r.onUnsubscribe st s).2 ↔
      r.mSubscribers.getLast? = some s ∧
        ∀ a ∈ r.mSubscribers,
          (r.record a).equals (r.record s) = true := by
  rw [leave_eq_of_not_released r hState]
  unfold leave
  rw [if_neg (by simp [hWaits])]
  exact all_live_drainLog_iff (r.forMe s) s _ _ _
    (Nat.lt_succ_self _) r.nodup r.all_live hOn
    (Subscriber.equals_self _)

/- Two ATL clients, the later one at the head. -/
def twoClients : Records Bool where
  record := fun a =>
    .atl (if a then 1 else 2) false (Vector.replicate 16 0)
  live := fun _ => true
  mSubscribers := [true, false]
  nodup := by decide
  all_live := by decide

/- An ATL client that is on the list with three records. -/
def oneClient : Records (Fin 3) where
  record := fun _ => .atl 1 false (Vector.replicate 16 0)
  live := fun _ => true
  mSubscribers := [2, 1, 0]
  nodup := by decide
  all_live := by decide

theorem lookups_live_iff_oneClient :
    AllLive (oneClient.onUnsubscribe .acquired 0).2 :=
  (lookups_live_iff oneClient .acquired 0 (by decide)
      (by decide) (by decide)).mpr
    ⟨rfl, by decide⟩

/-
  The first of two clients leaves: it is deleted, and the
  second one is compared with it afterwards.
-/
theorem lookup_after_delete :
    twoClients.findSubscriber (twoClients.record true) =
        some true ∧
      (twoClients.record true).waitForCloseComplete =
        false ∧
      ¬ AllLive
        (twoClients.onUnsubscribe .acquired true).2 := by
  decide

end Records

end Agps

end D2Common
