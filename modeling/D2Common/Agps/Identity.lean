import D2Common.Agps.Roster

/-
  Who a subscriber is, and whom `equals` takes it for.

  `equals` compares a handle with an IPv4 address, and IPv6
  addresses up to the first zero byte. The file compares it
  with the identity that a client has, and says when a list
  keeps two clients apart.

  Key definitions include:
    * `Subscriber.identity`
    * `Identity.FindsOwn`
    * `Identity.KeepsApart`

  Key theorems include:
    * `Subscriber.equals_of_identity_eq`
    * `Identity.findsOwn_of_keepsApart`
    * `Identity.keepsApart_iff`
-/

------------------------------------------------------------
-- Identities
------------------------------------------------------------

namespace D2Common

namespace Agps

/-
  What tells clients apart: their kind, and the handle, the
  address or the sender of that kind. An IPv6 address counts
  when there is no IPv4 address.
-/
inductive Identity where
  | atl (id : Handle)
  | bitV4 (ipv4 : Handle)
  | bitV6 (ipv6 : IPv6Addr)
  | wifi (senderId : SenderId)
  | ds (id : Handle)
deriving DecidableEq

namespace Subscriber

def identity : Subscriber → Identity
| .bit id mIPv6Addr =>
    if id = inaddrNone then .bitV6 mIPv6Addr else .bitV4 id
| .atl id _ _ => .atl id
| .wifi _ _ senderId _ _ => .wifi senderId
| .ds id _ => .ds id

/- Whether the subscriber is an ATL or a BIT subscriber. -/
def isAtlOrBit : Subscriber → Bool
| .bit .. => true
| .atl .. => true
| _ => false

@[simp] theorem identity_clone
    (s : Subscriber) :
    s.clone.identity = s.identity := by
  cases s <;> rfl

theorem ID_eq_of_equals
    {s t : Subscriber}
    (hEq : s.equals t = true) :
    s.ID = t.ID := by
  cases s <;> simp_all [equals, ID]

theorem ID_eq_of_identity_eq
    {s t : Subscriber}
    (hSame : s.identity = t.identity) :
    s.ID = t.ID := by
  cases s <;> cases t <;>
    simp [identity] at hSame <;>
    grind [ID]

/- Whom a subscriber equals depends on its identity only. -/
theorem equals_congr_left
    {s s' : Subscriber}
    (hSame : s.identity = s'.identity)
    (t : Subscriber) :
    s.equals t = s'.equals t := by
  cases s <;> cases s' <;>
    simp [identity] at hSame <;>
    grind [equals, ID]

theorem equals_of_identity_eq
    {s t : Subscriber}
    (hSame : s.identity = t.identity) :
    s.equals t = true := by
  rw [equals_congr_left hSame]
  exact t.equals_self

/- Only BIT subscribers compare more than the ID. -/
def isBit : Subscriber → Bool
| .bit .. => true
| _ => false

theorem equals_of_not_isBit
    {s : Subscriber}
    (hBit : s.isBit = false)
    (t : Subscriber) :
    s.equals t = (s.ID == t.ID) := by
  cases s <;> simp_all [isBit, equals, ID]

/- ATL and DS records are compared by their handles only. -/
def isAtlOrDS (s : Subscriber) : Bool :=
  match s with
  | .atl .. => true
  | .ds .. => true
  | _ => false

theorem equals_of_isAtlOrDS
    {s : Subscriber}
    (hs : s.isAtlOrDS = true)
    (t : Subscriber) :
    s.equals t = (s.ID == t.ID) := by
  apply equals_of_not_isBit
  cases s <;> simp_all [isAtlOrDS, isBit]

@[simp] theorem isAtlOrDS_clone
    (s : Subscriber) :
    s.clone.isAtlOrDS = s.isAtlOrDS := by
  cases s <;> rfl

theorem isBit_of_identity_eq
    {s t : Subscriber}
    (hSame : s.identity = t.identity) :
    s.isBit = t.isBit := by
  cases s <;> cases t <;>
    simp [identity] at hSame <;>
    grind [isBit]

/- A BIT subscriber is compared by its identity only. -/
theorem equals_congr_right
    {t t' : Subscriber}
    (hBit : t.isBit = true)
    (hSame : t.identity = t'.identity)
    (s : Subscriber) :
    s.equals t = s.equals t' := by
  have hBit' := isBit_of_identity_eq hSame
  cases t <;> cases t' <;> simp [isBit] at hBit hBit'
  cases s <;> grind [equals, ID, mIPv6AddrOf, identity]

/-
  A subscriber that equals one record of a client is confused
  with the client itself, one way or the other.
-/
theorem confused_of_equals
    {a b r : Subscriber}
    (hSame : r.identity = a.identity)
    (hEq : b.equals r = true) :
    b.equals a = true ∨ a.equals b = true := by
  cases hBit : a.isBit with
  | true =>
      left
      rw [equals_congr_right hBit hSame.symm]
      exact hEq
  | false =>
      right
      have hID : b.ID = a.ID :=
        (ID_eq_of_equals hEq).trans
          (ID_eq_of_identity_eq hSame)
      rw [equals_of_not_isBit hBit, hID]
      simp

end Subscriber

end Agps

end D2Common

------------------------------------------------------------
-- Comparisons Of IPv6 Addresses
------------------------------------------------------------

namespace D2Common

namespace Agps

theorem strncmpEq_symm
    (a b : List UInt8) :
    strncmpEq a b = strncmpEq b a := by
  induction a generalizing b with
  | nil => cases b <;> rfl
  | cons x a ih =>
      cases b with
      | nil => rfl
      | cons y b =>
          simp only [strncmpEq]
          by_cases hxy : x = y
          · subst hxy
            simp [ih b]
          · rw [if_neg hxy, if_neg (Ne.symm hxy)]

/- Equality up to the first zero byte can be chained. -/
theorem strncmpEq_trans
    {a b c : List UInt8}
    (hLength : a.length = b.length)
    (hLength' : b.length = c.length)
    (hab : strncmpEq a b = true)
    (hbc : strncmpEq b c = true) :
    strncmpEq a c = true := by
  induction a generalizing b c with
  | nil => cases c <;> rfl
  | cons x a ih =>
      rcases b with _ | ⟨y, b⟩
      · simp at hLength
      rcases c with _ | ⟨z, c⟩
      · simp at hLength'
      simp only [strncmpEq] at hab hbc ⊢
      by_cases hxy : x = y
      · by_cases hyz : y = z
        · subst hxy hyz
          by_cases hx : x = 0
          · simp [hx]
          · simp only [if_true, if_neg hx] at hab hbc ⊢
            exact ih (by simpa using hLength)
              (by simpa using hLength') hab hbc
        · simp [hyz] at hbc
      · simp [hxy] at hab

namespace Subscriber

/-
  Two BIT subscribers of which one equals the other equal
  the same subscribers.
-/
theorem equals_iff_of_isBit
    {s t : Subscriber}
    (hs : s.isBit = true)
    (ht : t.isBit = true)
    (hEq : s.equals t = true)
    (r : Subscriber) :
    s.equals r = t.equals r := by
  cases s <;> simp [isBit] at hs
  cases t <;> simp [isBit] at ht
  rename_i id addr id' addr'
  have hID : id = id' := by
    simpa [ID] using ID_eq_of_equals hEq
  subst hID
  by_cases hNone : inaddrNone = id
  · have hAddr :
        strncmpEq addr.toList addr'.toList = true := by
      simpa [equals, hNone, mIPv6AddrOf, ID] using hEq
    have hSame :
        strncmpEq addr.toList r.mIPv6AddrOf.toList =
          strncmpEq addr'.toList
            r.mIPv6AddrOf.toList := by
      rw [Bool.eq_iff_iff]
      constructor
      · intro h
        exact strncmpEq_trans (by simp) (by simp)
          (strncmpEq_symm _ _ ▸ hAddr) h
      · intro h
        exact strncmpEq_trans (by simp) (by simp) hAddr h
    simp [equals, hSame]
  · have hSome : (inaddrNone != id) = true := by
      simpa using hNone
    simp [equals, hSome]

end Subscriber

end Agps

end D2Common

------------------------------------------------------------
-- Lists That Keep Clients Apart
------------------------------------------------------------

namespace D2Common

namespace Agps

namespace Identity

/- A record of the client is on the list. -/
def On
    (c : Subscriber)
    (l : List Subscriber) : Prop :=
  ∃ s ∈ l, s.identity = c.identity

/- A search for the client finds no other client. -/
def FindsOwn
    (c : Subscriber)
    (l : List Subscriber) : Prop :=
  ∀ r, l.find? (·.equals c) = some r →
    r.identity = c.identity

/- No older record equals a newer one. -/
def Ordered (l : List Subscriber) : Prop :=
  l.Pairwise fun newer older => older.equals newer = false

/- The list after everyone the search takes for it is out. -/
def removed
    (c : Subscriber)
    (l : List Subscriber) : List Subscriber :=
  match l.find? (·.equals c) with
  | some r => l.filter (!·.equals r)
  | none => l

/- Neither of two clients equals the other. -/
def Apart (a b : Subscriber) : Prop :=
  a.equals b = false ∧ b.equals a = false

/-
  Both clients are on the list once they have been added,
  and each of them can be removed without the other.
-/
def KeepsApart
    (a b : Subscriber)
    (l : List Subscriber) : Prop :=
  let both := Roster.added b (Roster.added a l)
  (On a both ∧ On b both) ∧
    (¬ On a (removed a both) ∧ On b (removed a both)) ∧
    (¬ On b (removed b both) ∧ On a (removed b both))

theorem on_added_of_on
    {c d : Subscriber}
    {l : List Subscriber}
    (hOn : On c l) :
    On c (Roster.added d l) := by
  rcases hOn with ⟨s, hs, hSame⟩
  unfold Roster.added
  split
  · exact ⟨s, hs, hSame⟩
  · exact ⟨s, List.mem_cons_of_mem _ hs, hSame⟩

theorem on_added
    {c : Subscriber}
    {l : List Subscriber}
    (hOwn : FindsOwn c l) :
    On c (Roster.added c l) := by
  unfold Roster.added
  cases hFind : l.find? (·.equals c) with
  | none =>
      have hNone : ¬ l.any (·.equals c) = true := by
        simpa using hFind
      rw [if_neg hNone]
      exact ⟨c.clone, List.mem_cons_self, by simp⟩
  | some r =>
      have hMem := List.mem_of_find?_eq_some hFind
      have hEq := List.find?_some hFind
      rw [if_pos (List.any_eq_true.mpr ⟨r, hMem, hEq⟩)]
      exact ⟨r, hMem, hOwn r hFind⟩

theorem findsOwn_added_self
    {c : Subscriber}
    {l : List Subscriber}
    (hOwn : FindsOwn c l) :
    FindsOwn c (Roster.added c l) := by
  unfold Roster.added
  split
  · exact hOwn
  · intro r hFind
    have hr : c.clone = r := by simpa using hFind
    rw [← hr]
    simp

/- A client that does not equal `c` is passed over. -/
theorem find?_added
    {c d : Subscriber}
    (l : List Subscriber)
    (hNot : d.equals c = false) :
    (Roster.added d l).find? (·.equals c) =
      l.find? (·.equals c) := by
  unfold Roster.added
  split
  · rfl
  · simp [hNot]

theorem on_find
    {c : Subscriber}
    {l : List Subscriber}
    (hOn : On c l) :
    ∃ r, l.find? (·.equals c) = some r := by
  rcases hOn with ⟨s, hs, hSame⟩
  have hSome : (l.find? (·.equals c)).isSome = true :=
    List.find?_isSome.mpr
      ⟨s, hs, Subscriber.equals_of_identity_eq hSame⟩
  exact Option.isSome_iff_exists.mp hSome

theorem removed_eq
    {c r : Subscriber}
    {l : List Subscriber}
    (hFind : l.find? (·.equals c) = some r) :
    removed c l = l.filter (!·.equals r) := by
  simp [removed, hFind]

/- Removing `a` takes `a` away and leaves a client apart. -/
theorem on_removed
    {a b : Subscriber}
    {l : List Subscriber}
    (hApart : Apart a b)
    (hOwn : FindsOwn a l)
    (ha : On a l)
    (hb : On b l) :
    ¬ On a (removed a l) ∧ On b (removed a l) := by
  rcases on_find ha with ⟨r, hFind⟩
  have hSame := hOwn r hFind
  rw [removed_eq hFind]
  constructor
  · rintro ⟨s, hs, hsa⟩
    have hEq :=
      Subscriber.equals_of_identity_eq (hsa.trans hSame.symm)
    simp [hEq] at hs
  · rcases hb with ⟨s, hs, hsb⟩
    refine ⟨s, List.mem_filter.mpr ⟨hs, ?_⟩, hsb⟩
    by_contra hGone
    have hEq : b.equals r = true := by
      rw [← Subscriber.equals_congr_left hsb]
      simpa using hGone
    rcases Subscriber.confused_of_equals hSame hEq with
      h | h
    · rw [hApart.2] at h
      cases h
    · rw [hApart.1] at h
      cases h

theorem keepsApart_of_findsOwn
    {a b : Subscriber}
    {l : List Subscriber}
    (hApart : Apart a b)
    (ha : FindsOwn a l)
    (hb : FindsOwn b l) :
    KeepsApart a b l := by
  have haFirst := findsOwn_added_self ha
  have haBoth :
      FindsOwn a (Roster.added b (Roster.added a l)) := by
    intro r hFind
    rw [find?_added _ hApart.2] at hFind
    exact haFirst r hFind
  have hbFirst : FindsOwn b (Roster.added a l) := by
    intro r hFind
    rw [find?_added _ hApart.1] at hFind
    exact hb r hFind
  have hbBoth := findsOwn_added_self hbFirst
  have hOnA :
      On a (Roster.added b (Roster.added a l)) :=
    on_added_of_on (on_added ha)
  have hOnB :
      On b (Roster.added b (Roster.added a l)) :=
    on_added hbFirst
  exact ⟨⟨hOnA, hOnB⟩,
    on_removed hApart haBoth hOnA hOnB,
    on_removed ⟨hApart.2, hApart.1⟩ hbBoth hOnB hOnA⟩

end Identity

end Agps

end D2Common

------------------------------------------------------------
-- Lists That Do Not
------------------------------------------------------------

namespace D2Common

namespace Agps

namespace Identity

/-
  A stranger that the search finds first stands before the
  client's own record, and that record stays.
-/
theorem on_removed_of_stranger
    {c r : Subscriber}
    {l : List Subscriber}
    (hOrdered : Ordered l)
    (hFind : l.find? (·.equals c) = some r)
    (hStranger : r.identity ≠ c.identity)
    (hOn : On c l) :
    On c (l.filter (!·.equals r)) := by
  rcases hOn with ⟨s, hs, hSame⟩
  rcases List.find?_eq_some_iff_append.mp hFind with
    ⟨-, before, after, rfl, hBefore⟩
  have hEq := Subscriber.equals_of_identity_eq hSame
  have hAfter : s ∈ after := by
    rcases List.mem_append.mp hs with hs | hs
    · have hNot := hBefore s hs
      simp [hEq] at hNot
    · rcases List.mem_cons.mp hs with rfl | hs
      · exact absurd hSame hStranger
      · exact hs
  have hOlder : s.equals r = false := by
    have hTail :=
      (List.pairwise_append.mp hOrdered).2.1
    exact (List.pairwise_cons.mp hTail).1 s hAfter
  exact ⟨s,
    List.mem_filter.mpr
      ⟨List.mem_append_right _ (List.mem_cons_of_mem _ hAfter),
        by simp [hOlder]⟩,
    hSame⟩

/- An ATL and a BIT client with one ID leave together. -/
theorem not_on_removed_of_ID
    {x y : Subscriber}
    {l : List Subscriber}
    (hBit : x.isBit = false)
    (hID : x.ID = y.ID)
    (hy : On y l) :
    ¬ On x (removed y l) := by
  rcases on_find hy with ⟨r, hFind⟩
  rw [removed_eq hFind]
  have hEq := List.find?_some hFind
  rintro ⟨s, hs, hSame⟩
  have hOut : s.equals r = true := by
    rw [Subscriber.equals_congr_left hSame,
      Subscriber.equals_of_not_isBit hBit, hID,
      Subscriber.ID_eq_of_equals hEq]
    simp
  simp [hOut] at hs

/- Two BIT clients of which one equals the other as well. -/
theorem on_removed_iff_of_isBit
    {a b c : Subscriber}
    {l : List Subscriber}
    (ha : a.isBit = true)
    (hb : b.isBit = true)
    (hEq : a.equals b = true)
    (hOnA : On a l)
    (hOnB : On b l)
    (hOnC : On c l) :
    On a (removed c l) ↔ On b (removed c l) := by
  rcases on_find hOnC with ⟨r, hFind⟩
  rw [removed_eq hFind]
  have hFate := Subscriber.equals_iff_of_isBit ha hb hEq r
  have hOn (x : Subscriber) (hx : On x l) :
      On x (l.filter (!·.equals r)) ↔
        x.equals r = false := by
    constructor
    · rintro ⟨s, hs, hSame⟩
      rw [← Subscriber.equals_congr_left hSame]
      simpa using (List.mem_filter.mp hs).2
    · intro hNot
      rcases hx with ⟨s, hs, hSame⟩
      refine ⟨s, List.mem_filter.mpr ⟨hs, ?_⟩, hSame⟩
      rw [Subscriber.equals_congr_left hSame]
      simpa using hNot
  rw [hOn a hOnA, hOn b hOnB, hFate]

theorem not_both_bit_ne
    {a b : Subscriber}
    (ha : a.isAtlOrBit = true)
    (hb : b.isAtlOrBit = true)
    (hBits : ¬ (a.isBit = true ∧ b.isBit = true))
    (hDiffer : a.identity ≠ b.identity)
    (hID : a.ID = b.ID) :
    (a.isBit = false ∧ b.isBit = true) ∨
      (a.isBit = true ∧ b.isBit = false) := by
  cases a <;> simp [Subscriber.isAtlOrBit] at ha <;>
    cases b <;> simp [Subscriber.isAtlOrBit] at hb <;>
    simp_all [Subscriber.isBit, Subscriber.identity,
      Subscriber.ID]

/- Clients of which one equals the other are not kept apart. -/
theorem apart_of_keepsApart
    {a b : Subscriber}
    {l : List Subscriber}
    (ha : a.isAtlOrBit = true)
    (hb : b.isAtlOrBit = true)
    (hDiffer : a.identity ≠ b.identity)
    (hKeeps : KeepsApart a b l) :
    Apart a b := by
  rcases hKeeps with
    ⟨⟨hOnA, hOnB⟩, ⟨hGoneA, hStaysB⟩, ⟨hGoneB, hStaysA⟩⟩
  by_contra hNot
  have hSome : a.equals b = true ∨ b.equals a = true := by
    by_contra hNone
    push Not at hNone
    exact hNot
      ⟨by simpa using hNone.1, by simpa using hNone.2⟩
  have hID : a.ID = b.ID := by
    rcases hSome with h | h
    · exact Subscriber.ID_eq_of_equals h
    · exact (Subscriber.ID_eq_of_equals h).symm
  by_cases hBits : a.isBit = true ∧ b.isBit = true
  · rcases hSome with h | h
    · exact hGoneA
        ((on_removed_iff_of_isBit hBits.1 hBits.2 h
          hOnA hOnB hOnA).mpr hStaysB)
    · exact hGoneA
        ((on_removed_iff_of_isBit hBits.2 hBits.1 h
          hOnB hOnA hOnA).mp hStaysB)
  · rcases not_both_bit_ne ha hb hBits hDiffer hID with
      ⟨hA, -⟩ | ⟨-, hB⟩
    · exact not_on_removed_of_ID hA hID hOnB hStaysA
    · exact not_on_removed_of_ID hB hID.symm hOnA hStaysB

theorem added_of_find?
    {c r : Subscriber}
    {l : List Subscriber}
    (hFind : l.find? (·.equals c) = some r) :
    Roster.added c l = l := by
  unfold Roster.added
  exact if_pos
    (List.any_eq_true.mpr
      ⟨r, List.mem_of_find?_eq_some hFind,
        List.find?_some hFind⟩)

theorem ordered_added
    {c : Subscriber}
    {l : List Subscriber}
    (hOrdered : Ordered l) :
    Ordered (Roster.added c l) := by
  unfold Roster.added
  split
  · exact hOrdered
  · next hNone =>
      refine List.pairwise_cons.mpr ⟨?_, hOrdered⟩
      intro s hs
      by_contra hEq
      apply hNone
      refine List.any_eq_true.mpr ⟨s, hs, ?_⟩
      simpa using hEq

/- A list that keeps two clients apart finds each of them. -/
theorem findsOwn_of_keepsApart
    {a b : Subscriber}
    {l : List Subscriber}
    (hOrdered : Ordered l)
    (hApart : Apart a b)
    (hKeeps : KeepsApart a b l) :
    FindsOwn a l ∧ FindsOwn b l := by
  rcases hKeeps with
    ⟨⟨hOnA, hOnB⟩, ⟨hGoneA, -⟩, ⟨hGoneB, -⟩⟩
  have hBoth :
      Ordered (Roster.added b (Roster.added a l)) :=
    ordered_added (ordered_added hOrdered)
  constructor
  · intro r hFind
    by_contra hStranger
    have hFindBoth :
        (Roster.added b (Roster.added a l)).find?
            (·.equals a) = some r := by
      rw [find?_added _ hApart.2, added_of_find? hFind]
      exact hFind
    apply hGoneA
    rw [removed_eq hFindBoth]
    exact on_removed_of_stranger hBoth hFindBoth
      hStranger hOnA
  · intro r hFind
    by_contra hStranger
    have hFindFirst :
        (Roster.added a l).find? (·.equals b) = some r := by
      rw [find?_added _ hApart.1]
      exact hFind
    have hFindBoth :
        (Roster.added b (Roster.added a l)).find?
            (·.equals b) = some r := by
      rw [added_of_find? hFindFirst]
      exact hFindFirst
    apply hGoneB
    rw [removed_eq hFindBoth]
    exact on_removed_of_stranger hBoth hFindBoth
      hStranger hOnB

theorem keepsApart_iff
    {a b : Subscriber}
    {l : List Subscriber}
    (hOrdered : Ordered l)
    (ha : a.isAtlOrBit = true)
    (hb : b.isAtlOrBit = true)
    (hDiffer : a.identity ≠ b.identity) :
    KeepsApart a b l ↔
      Apart a b ∧ FindsOwn a l ∧ FindsOwn b l := by
  constructor
  · intro hKeeps
    have hApart := apart_of_keepsApart ha hb hDiffer hKeeps
    exact ⟨hApart,
      findsOwn_of_keepsApart hOrdered hApart hKeeps⟩
  · rintro ⟨hApart, hOwnA, hOwnB⟩
    exact keepsApart_of_findsOwn hApart hOwnA hOwnB

end Identity

end Agps

end D2Common
