import Interprocess.Proofs.Call.Harmony
import Mathlib.Logic.Relation

/-!
# Calls that cross

Both ends may call at the same time. Then each of them finds the other's call in its queue while it
waits for the answer to its own, and decides alone whether that call has to wait. The main statement
is `one_end_in_charge`: the two never handle each other's calls at the same time, and of two calls
that cross exactly one waits, the parent's going first where both nest equally deeply. This rests on
two conditions, and `both_in_charge` says that without either of them it fails: calls of the deepest
level, which never wait, do not cross, and no end runs out of numbers.
-/

set_option autoImplicit false

namespace Interprocess

open Relation (ReflTransGen)

/-- Whether a call of the other end comes behind the call of this end that it crossed. -/
def Behind (r : Role) (theirs mine : Message) : Prop :=
  theirs.flags.level < mine.flags.level ∨
    theirs.flags.level = mine.flags.level ∧ r = .parent

instance (r : Role) (theirs mine : Message) : Decidable (Behind r theirs mine) :=
  inferInstanceAs (Decidable (_ ∨ _))

/-- Of two calls that cross one waits at its callee, and the other one does not. -/
theorem behind_other (r : Role) (theirs mine : Message) :
    Behind r.other mine theirs ↔ ¬ Behind r theirs mine := by
  unfold Behind
  simp only [Level.lt_iff]
  cases r <;> cases theirs.flags.level <;> cases mine.flags.level <;>
    simp [Role.other, Level.number]

/-- Where two calls have different places in the order of crossing calls, the one that comes after
the other is the one that waits. -/
theorem Call.rank_lt_iff_behind {r : Role} {theirs mine : Call} (caller : theirs.caller = r.other)
    (own : mine.caller = r) (ne : theirs.rank ≠ mine.rank) :
    theirs.rank < mine.rank ↔ Behind r theirs.message mine.message := by
  have level : theirs.message.flags.level = theirs.level := rfl
  have level' : mine.message.flags.level = mine.level := rfl
  revert ne
  simp only [Behind, Level.lt_iff, level, level', Call.rank, caller, own]
  cases r <;> cases theirs.level <;> cases mine.level <;> simp [Role.other, Level.number]

/-! ## Two calls on the way towards each other -/

/-- A call is under way to an end, and nothing but notices arrives there before it. -/
def Party.Next (p : Party) (m : Message) : Prop :=
  ∃ before after, p.inbox = before ++ { message := m } :: after ∧
    ∀ letter ∈ before, letter.message.flags.sync = false

/-- Each end has sent a call that has not arrived at the other one. -/
structure Crossing (w : World) (r : Role) (theirs mine : Message) : Prop where
  sync : theirs.flags.sync = true
  here : { message := theirs } ∈ (w r).inbox
  sync' : mine.flags.sync = true
  there : { message := mine } ∈ (w r.other).inbox

/-- An end waits for the answer to its only call while a call that crossed it is under way. -/
structure Expects (w : World) (r : Role) (theirs mine : Call) : Prop where
  calls : (w r).calls = [mine]
  own : mine.caller = r
  next : (w r).Next theirs.message
  caller : theirs.caller = r.other
  proper : theirs.Proper
  id : theirs.id ≠ mine.id
  rank : theirs.rank ≠ mine.rank

/-- What arrives before the first call or answer are notices. -/
theorem Party.next_of_line {p : Party} {r : Role} {c : Call} {items : List Item}
    (line : (p.seat r).line = .call c :: items) (caller : c.caller = r.other) :
    p.Next c.message := by
  obtain ⟨before, letter, after, inbox, notices, item, -⟩ := List.filterMap_eq_cons_iff.1 line
  obtain ⟨m, answers⟩ := letter
  cases answers with
  | some d => simp [Letter.item?] at item
  | none =>
    refine ⟨before, after, ?_, fun letter mem => ?_⟩
    · cases sync : m.flags.sync with
      | false => simp [Letter.item?, sync] at item
      | true =>
        obtain rfl : { caller := r.other, message := m } = c := by
          simpa [Letter.item?, sync] using item
        exact inbox
    · have notice := notices letter mem
      unfold Letter.item? at notice
      split at notice
      · contradiction
      · split at notice
        · contradiction
        · next sync => exact Bool.eq_false_iff.2 sync

/-- A letter with a synchronous message that answers nothing is a call of the other end. -/
theorem Party.call_mem_line {p : Party} {r : Role} {m : Message} (sync : m.flags.sync = true)
    (mem : { message := m } ∈ p.inbox) :
    .call { caller := r.other, message := m } ∈ (p.seat r).line :=
  List.mem_filterMap.2 ⟨_, mem, if_pos sync⟩

/-- Where two calls cross, each end waits for the answer to its own. -/
theorem Crossing.expects {careful : Prop} {w : World} {r : Role} {theirs mine : Message}
    (crossing : Crossing w r theirs mine) (harmony : Harmony careful w) :
    Expects w r { caller := r.other, message := theirs } { caller := r, message := mine } := by
  have there : .call { caller := r, message := mine } ∈ ((w r.other).seat r.other).line := by
    have mem := Party.call_mem_line (r := r.other) crossing.sync' crossing.there
    rwa [Role.other_other] at mem
  have apart := (harmony.agrees r).towards (Party.call_mem_line crossing.sync crossing.here) there
  have line : ((w r).seat r).line = [.call { caller := r.other, message := theirs }] := by
    rcases apart.lineHere with line | ⟨_, _, _, answered, _⟩
    · exact line
    · cases answered
  exact
    { calls := apart.callsHere
      own := rfl
      next := Party.next_of_line line rfl
      caller := rfl
      proper := apart.freeThere.proper _ _ rfl
      id := (apart.freeThere.opening _ _ rfl).id_ne (apart.freeHere.opening _ _ rfl)
        (Role.other_ne r)
      rank := (apart.distinct _ _ _ _ rfl rfl Phase.noConfusion Phase.noConfusion).symm }

namespace Expects

variable {careful : Prop} {permits : Rule} {w w' : World} {r : Role} {theirs mine : Call}

/-- What one end does leaves the other one waiting. -/
theorem act_other {outcome : Party × Option Letter} (expects : Expects w r theirs mine) :
    Expects (w.act r.other outcome) r theirs mine := by
  have other : w.act r.other outcome r =
      { w r with inbox := (w r).inbox ++ outcome.2.toList } := by
    have other := World.act_other w r.other outcome
    rwa [Role.other_other] at other
  obtain ⟨before, after, inbox, notices⟩ := expects.next
  refine { expects with calls := ?_, next := ?_ }
  · rw [other]
    exact expects.calls
  · rw [other]
    refine ⟨before, after ++ outcome.2.toList, ?_, notices⟩
    show (w r).inbox ++ outcome.2.toList = _
    rw [inbox, List.append_assoc]
    rfl

/-- An end that changes neither its calls nor what arrives next goes on waiting. -/
theorem act_self {p : Party} (expects : Expects w r theirs mine) (calls : p.calls = (w r).calls)
    (next : p.Next theirs.message) : Expects (w.act r (p, none)) r theirs mine := by
  refine { expects with calls := ?_, next := ?_ }
  · rw [World.act_self, calls, expects.calls]
  · rw [World.act_self]
    exact next

/-- An end that expects an answer waits and handles nothing. -/
theorem isWaiting (harmony : Harmony careful w) (expects : Expects w r theirs mine) :
    (w r).isWaiting = true ∧ (w r).isHandling = false ∧ (w r).tracker.stack ≠ [] := by
  have own : decide (mine.caller = r) = true := decide_eq_true expects.own
  rw [Party.isWaiting, Party.isHandling, (harmony.kept r).stack, expects.calls]
  refine ⟨own, ?_, List.cons_ne_nil _ _⟩
  show (!decide (mine.caller = r)) = false
  rw [own]
  rfl

/-- An end that waits goes on waiting until it takes the call that is under way to it. -/
theorem step (harmony : Harmony careful w) (expects : Expects w r theirs mine)
    (step : Step permits w w') :
    Expects w' r theirs mine ∨
      ∃ letters, (w r).inbox = { message := theirs.message } :: letters ∧
        w' = w.act r (((w r).opened letters).take theirs.message, none) := by
  obtain ⟨waiting, free, busy⟩ := expects.isWaiting harmony
  -- only the end that waits can stop waiting
  have others (s : Role) (outcome : Party × Option Letter) (ne : s ≠ r) :
      Expects (w.act s outcome) r theirs mine := by
    obtain rfl := Role.eq_other_of_ne ne
    exact expects.act_other
  cases step with
  | @send s m ready ordinary permitted few =>
    refine Or.inl (others s _ ?_)
    rintro rfl
    rw [waiting] at ready
    contradiction
  | @answer s c calls m handling innermost answers =>
    refine Or.inl (others s _ ?_)
    rintro rfl
    rw [free] at handling
    contradiction
  | @receive s letter letters listening inbox =>
    by_cases same : s = r
    · subst same
      obtain ⟨before, after, queue, notices⟩ := expects.next
      rw [inbox] at queue
      cases before with
      | nil =>
        obtain ⟨rfl, rfl⟩ := List.cons.inj queue
        exact Or.inr ⟨letters, inbox, rfl⟩
      | cons notice before =>
        obtain ⟨rfl, rfl⟩ := List.cons.inj queue
        have kept := (harmony.kept s).opened inbox
        have seat := (kept.take_notice (notices letter List.mem_cons_self)).2
        refine Or.inl (expects.act_self (congrArg Seat.calls seat) ⟨before, after, ?_, ?_⟩)
        · exact Party.inbox_take
        · exact fun l mem => notices l (List.mem_cons_of_mem _ mem)
    · exact Or.inl (others s _ same)
  | @drain s =>
    by_cases same : s = r
    · subst same
      exact Or.inl (expects.act_self rfl expects.next)
    · exact Or.inl (others s _ same)
  | @refeed s m handed stack more =>
    refine Or.inl (others s _ ?_)
    rintro rfl
    exact busy stack

/-- The call that crossed waits if it comes after the call of this end, and is handled otherwise. -/
theorem receive (harmony : Harmony careful w) (expects : Expects w r theirs mine) :
    ((w r).tracker.receive theirs.message).1 =
      if Behind r theirs.message mine.message then .ok .deferred
      else .ok (.dispatch theirs.message) := by
  have kept := harmony.kept r
  have ordinary : ¬ (theirs.message.flags.reply = true ∧ theirs.message.flags.sync = true) := by
    rw [expects.proper.reply]
    simp
  have innermost : (w r).calls.head? = some mine := by
    rw [expects.calls]
    rfl
  have decides := (kept.decides (by
    rw [innermost]
    rintro _ ⟨⟩
    exact expects.own) expects.caller).apart mine innermost expects.proper
      (by rw [expects.caller, expects.own]) expects.id
  rw [Call.rank_lt_iff_behind expects.caller expects.own expects.rank] at decides
  rw [Tracker.receive_of_not_answer ordinary]
  by_cases behind : Behind r theirs.message mine.message
  · rw [if_pos (decides.2 behind), if_pos behind]
  · rw [if_neg (fun waits => behind (decides.1 waits)), if_neg behind, Tracker.fst_accept]

end Expects

/-- What comes about from a reachable state is reachable. -/
theorem Reachable.trans {permits : Rule} {w w' : World} (reachable : Reachable permits w)
    (run : ReflTransGen (Step permits) w w') : Reachable permits w' := by
  induction run with
  | refl => exact reachable
  | tail _ step ih => exact ih.step step

/-- In a run between two states an end takes a call that crossed its own. It lets this call wait if
it comes behind its own, and handles it otherwise. -/
def Decided (permits : Rule) (w w' : World) (r : Role) (theirs mine : Message) : Prop :=
  ∃ v letters, ReflTransGen (Step permits) w v ∧
    (v r).inbox = { message := theirs } :: letters ∧
    ((v r).tracker.receive theirs).1 =
      (if Behind r theirs mine then .ok .deferred else .ok (.dispatch theirs)) ∧
    ReflTransGen (Step permits) (v.act r (((v r).opened letters).take theirs, none)) w'

/-- In every run a call that crossed another one is under way until its callee decides about it. -/
theorem Expects.run {permits : Rule} {w w' : World} {r : Role} {theirs mine : Call}
    (reachable : Reachable permits w) (uncrossed : ∀ p m, permits p m → Uncrossed p m)
    (expects : Expects w r theirs mine) (run : ReflTransGen (Step permits) w w') :
    Expects w' r theirs mine ∨ Decided permits w w' r theirs.message mine.message := by
  induction run with
  | refl => exact Or.inl expects
  | @tail v v' before step ih =>
    rcases ih with expects | ⟨u, letters, first, inbox, verdict, last⟩
    · have harmony : Harmony False v :=
        (reachable.trans before).harmony_of_uncrossed uncrossed fun h => h.elim
      rcases expects.step harmony step with expects | ⟨letters, inbox, rfl⟩
      · exact Or.inl expects
      · exact Or.inr ⟨v, letters, before, inbox, expects.receive harmony, .refl⟩
    · exact Or.inr ⟨u, letters, first, inbox, verdict, last.tail step⟩

/-! ## One end is in charge -/

/-- Where calls of the deepest level do not cross and the numbers last, the ends never handle each
other's calls at the same time. Of two calls that cross, exactly one waits when it arrives, whatever
happens until then: the one that nests less deeply or, if they nest equally deeply, the child's. -/
theorem one_end_in_charge {w : World} (reachable : Reachable Uncrossed w) :
    (¬ ∀ r, (w r).isHandling = true) ∧
      ∀ r theirs mine, Crossing w r theirs mine →
        (Behind r theirs mine ↔ ¬ Behind r.other mine theirs) ∧
        (theirs.flags.level = mine.flags.level → (Behind r theirs mine ↔ r = .parent)) ∧
        ∀ w', ReflTransGen (Step Uncrossed) w w' →
          (w' r).Next theirs ∨ Decided Uncrossed w w' r theirs mine := by
  have harmony : Harmony False w :=
    reachable.harmony_of_uncrossed (fun _ _ h => h) fun h => h.elim
  refine ⟨fun both => ?_, fun r theirs mine crossing => ⟨?_, fun same => ?_, fun w' run => ?_⟩⟩
  · obtain ⟨c, head⟩ := (harmony.kept .parent).head_of_handling (both .parent)
    obtain ⟨d, head'⟩ := (harmony.kept .child).head_of_handling (both .child)
    exact (harmony.agrees .parent).not_both_handling head
      ((harmony.kept .parent).handling (both .parent) head) head'
      ((harmony.kept .child).handling (both .child) head')
  · rw [behind_other, Classical.not_not]
  · simp only [Behind, same, Level.lt_iff, Nat.lt_irrefl, false_or, true_and]
  · rcases (crossing.expects harmony).run reachable (fun _ _ h => h) run with expects | decided
    · exact Or.inl expects.next
    · exact Or.inr decided

/-- A call of a given level. -/
def callOf (level : Level) : Message := .addressed 1 2 { level, sync := true }

/-- Both ends have made a call of the same level, and neither call has arrived. -/
def racing : World :=
  let called := World.start.act .parent ((World.start .parent).give (callOf .insideSync))
  called.act .child ((called .child).give (callOf .insideSync))

/-- The parent lets the child's call wait and the child handles the parent's. -/
theorem one_end_in_charge_racing :
    ∃ w theirs mine, Reachable Uncrossed w ∧ Crossing w .parent theirs mine ∧
      theirs.flags.level = mine.flags.level ∧ Behind .parent theirs mine ∧
      ¬ Behind .child mine theirs ∧ ¬ ∀ r, (w r).isHandling = true := by
  have shallow (p : Party) : Uncrossed p (callOf .insideSync) :=
    fun deep => absurd deep.deepest (by decide)
  have reachable : Reachable Uncrossed racing :=
    .step (.step .start (.send rfl (by decide) (shallow _) (by decide)))
      (.send rfl (by decide) (shallow _) (by decide))
  have crossing : Crossing racing .parent (((callOf .insideSync).setSeqno (-1)).setTransaction (-1))
      (((callOf .insideSync).setSeqno 1).setTransaction 1) :=
    ⟨rfl, List.mem_singleton.2 rfl, rfl, List.mem_singleton.2 rfl⟩
  obtain ⟨alone, races⟩ := one_end_in_charge reachable
  obtain ⟨one, level, -⟩ := races _ _ _ crossing
  have behind := (level rfl).2 rfl
  exact ⟨racing, _, _, reachable, crossing, rfl, behind, one.1 behind, alone⟩

/-! ## Where both ends are in charge -/

/-- The count of the numbers that an end gave out is forgotten. -/
def World.recounted (w : World) : World := fun r => { w r with numbered := 0 }

/-- The states that come about where an end may send more messages than it has numbers. -/
inductive Endless (permits : Rule) : World → Prop
  | start : Endless permits World.start
  | step {w w' : World} : Endless permits w → Step permits w w' → Endless permits w'.recounted

/-- Neither end has an open call, and nothing is under way. -/
def quiet (parent child : Int32) : World := fun r =>
  { tracker := { role := r, lastSeqno := match r with | .parent => parent | .child => child } }

/-- Each end sends a notice and takes the other's. -/
theorem Endless.exchange {parent child : Int32} (endless : Endless Uncrossed (quiet parent child)) :
    Endless Uncrossed (quiet (parent + 1) (child - 1)) := by
  let notice : Message := .addressed 1 2 {}
  have shallow (p : Party) : Uncrossed p notice := fun deep => absurd deep.deepest (by decide)
  have few : 1 < seqnoLimit := by decide
  have sent := endless.step (.send (r := .parent) (m := notice) rfl (by decide) (shallow _) few)
  have answered := sent.step (.send (r := .child) (m := notice) rfl (by decide) (shallow _) few)
  have taken := answered.step (.receive (r := .parent) rfl rfl)
  have settled := taken.step (.receive (r := .child) rfl rfl)
  refine Eq.mp (congrArg _ ?_) settled
  funext r
  cases r <;> rfl

/-- They may do so as often as they like. -/
theorem endless_quiet (rounds : Nat) :
    Endless Uncrossed (quiet (Int32.ofNat rounds) (-Int32.ofNat rounds)) := by
  induction rounds with
  | zero =>
    refine Eq.mp (congrArg _ ?_) Endless.start
    funext r
    cases r <;> rfl
  | succ rounds ih =>
    have up : Int32.ofNat (rounds + 1) = Int32.ofNat rounds + 1 := Int32.ofNat_add rounds 1
    have down : -Int32.ofNat (rounds + 1) = -Int32.ofNat rounds - 1 := by
      rw [up]
      grind
    rw [down, up]
    exact ih.exchange

/-- Both ends can come to handle each other's calls if calls of the deepest level cross, and,
without any such call, if an end sends as many messages as there are numbers of one sign. -/
theorem both_in_charge :
    (∃ w, Reachable (fun _ _ => True) w ∧ ∀ r, (w r).isHandling = true) ∧
      ∃ w, Endless Uncrossed w ∧ ∀ r, (w r).isHandling = true := by
  constructor
  · have called : Reachable (fun _ _ => True) _ := .step .start
      (.send (r := .parent) (m := callOf .insideCpow) rfl (by decide) trivial (by decide))
    have crossed := called.step
      (.send (r := .child) (m := callOf .insideCpow) rfl (by decide) trivial (by decide))
    have handled := crossed.step (.receive (r := .parent) rfl rfl)
    have both := handled.step (.receive (r := .child) rfl rfl)
    exact ⟨_, both, fun r => by cases r <;> rfl⟩
  · have shallow (p : Party) : Uncrossed p (callOf .insideSync) :=
      fun deep => absurd deep.deepest (by decide)
    -- the next numbers of both ends are the same, so each call looks like a part of the other one
    have called := (endless_quiet 2147483647).step
      (.send (r := .parent) (m := callOf .insideSync) rfl (by decide) (shallow _) (by decide))
    have crossed := called.step
      (.send (r := .child) (m := callOf .insideSync) rfl (by decide) (shallow _) (by decide))
    have handled := crossed.step (.receive (r := .parent) rfl rfl)
    have both := handled.step (.receive (r := .child) rfl rfl)
    exact ⟨_, both, fun r => by cases r <;> rfl⟩

end Interprocess
