import Interprocess.Proofs.Call.Agreement
import Interprocess.Proofs.Call.Parties

/-!
# The two ends stay in agreement

`Harmony` says of a state that each tracker has the noted calls open and that the calls of both ends
agree. Every step keeps this, whatever the ends send, as long as calls of the deepest level do not
cross; where that level is left to the child they never do (`Reachable.uncrossed`). So no tracker
ever meets a message that breaks the order of calls (`calls_agree`), and where the ends are patient
they never both wait for an answer that cannot come (`never_deadlocked`).
-/

set_option autoImplicit false

namespace Interprocess

namespace World

variable (w : World) (r : Role) (outcome : Party × Option Letter)

/-- The end that acts becomes what its act says. -/
@[simp] theorem act_self : w.act r outcome r = outcome.1 := if_pos rfl

/-- The opposite end only finds the posted letter at the end of its queue. -/
@[simp] theorem act_other :
    w.act r outcome r.other =
      { w r.other with inbox := (w r.other).inbox ++ outcome.2.toList } :=
  if_neg (Role.other_ne r)

end World

/-- Each tracker has the noted calls open, and the calls of both ends agree. -/
structure Harmony (careful : Prop) (w : World) : Prop where
  kept : ∀ r, (w r).Kept r
  agrees : ∀ r, Agrees careful r ((w r).seat r) ((w r.other).seat r.other)

namespace Harmony

variable {careful : Prop} {w : World} {r : Role}

/-- At first no call is open and the ends agree. -/
theorem start (careful : Prop) : Harmony careful World.start where
  kept := fun r =>
    { role := rfl
      stack := rfl
      numbers := by
        rw [show World.start r = { tracker := .start r } from rfl]
        simp [Tracker.start]
      few := show 0 < seqnoLimit by decide
      letters := fun _ mem => nomatch mem
      waiting := fun _ mem => nomatch mem }
  agrees := fun r => .new careful r

/-- What one end does keeps the agreement if its calls still agree with those of the other end, to
which a letter is under way. -/
theorem act (harmony : Harmony careful w) {p : Party} {letter : Option Letter} (kept : p.Kept r)
    (sound : ∀ l ∈ letter, l.Sound)
    (agrees : Agrees careful r (p.seat r)
      { (w r.other).seat r.other with
        line := ((w r.other).seat r.other).line ++ letter.toList.filterMap (Letter.item? r) }) :
    Harmony careful (w.act r (p, letter)) := by
  have keptOther := harmony.kept r.other
  have seats : Agrees careful r ((w.act r (p, letter) r).seat r)
      ((w.act r (p, letter) r.other).seat r.other) := by
    rw [World.act_self, World.act_other]
    simpa [Party.seat, Party.backlog] using agrees
  constructor
  · intro s
    by_cases same : s = r
    · subst same
      rw [World.act_self]
      exact kept
    · obtain rfl := Role.eq_other_of_ne same
      rw [World.act_other]
      refine ⟨keptOther.role, keptOther.stack, keptOther.numbers, keptOther.few, ?_,
        keptOther.waiting⟩
      intro l mem
      rcases List.mem_append.1 mem with old | new
      · exact keptOther.letters l old
      · exact sound l (by simpa using new)
  · intro s
    by_cases same : s = r
    · subst same
      exact seats
    · obtain rfl := Role.eq_other_of_ne same
      rw [Role.other_other]
      exact seats.symm

/-- What one end does without posting a letter. -/
theorem actAlone (harmony : Harmony careful w) {p : Party} (kept : p.Kept r)
    (agrees : Agrees careful r (p.seat r) ((w r.other).seat r.other)) :
    Harmony careful (w.act r (p, none)) := by
  refine harmony.act kept (fun _ mem => nomatch mem) ?_
  simpa using agrees

/-- An end sends a message that is no answer to a synchronous call. -/
theorem send (harmony : Harmony careful w) {m : Message} (free : (w r).isWaiting = false)
    (ordinary : ¬ (m.flags.reply = true ∧ m.flags.sync = true)) (uncrossed : Uncrossed (w r) m)
    (patient : careful → Patient (w r) m) (few : ((w r).give m).1.numbered < seqnoLimit) :
    Harmony careful (w.act r ((w r).give m)) := by
  have kept := harmony.kept r
  have agrees := harmony.agrees r
  cases sync : m.flags.sync with
  | false =>
    cases reply : m.flags.reply with
    | true =>
      rw [Party.give_reply reply sync]
      refine harmony.act kept ?_ ?_
      · rintro _ ⟨⟩
        exact Letter.sound_of_ordinary ordinary
      · simpa [Letter.item?_notice r sync] using agrees
    | false =>
      rw [Party.give_notice reply sync] at few ⊢
      have notice : (m.setSeqno (w r).tracker.nextSeqno).flags.sync = false := sync
      refine harmony.act (kept.advanced few) ?_ ?_
      · rintro _ ⟨⟩
        exact Letter.sound_of_ordinary ordinary
      · simpa [Letter.item?_notice r notice] using agrees
  | true =>
    have reply : m.flags.reply = false := by
      cases reply : m.flags.reply with
      | true => exact absurd ⟨reply, sync⟩ ordinary
      | false => rfl
    rcases Party.give_call (p := w r) reply sync with given | ⟨given, deep⟩
    · rw [given] at few ⊢
      exact harmony.actAlone (kept.advanced few) agrees
    · rw [given] at few ⊢
      have caller : ((w r).numberedCall m).caller = r := kept.role
      have proper := (w r).proper_numberedCall reply sync
      refine harmony.act ((kept.advanced few).entered _) ?_ ?_
      · rintro _ ⟨⟩
        exact Letter.sound_of_ordinary fun ⟨answers, _⟩ => by
          rw [proper.reply] at answers
          contradiction
      · have item := Letter.item?_call _ proper
        rw [caller] at item
        have called := agrees.call caller proper (kept.ready free)
          (kept.joins_numberedCall few deep) ?_ ?_ ?_
        · simpa [item] using called
        · intro deepest d underWay deepest'
          obtain ⟨letter, there, same, reply', sync'⟩ := kept.letter_of_mem_line underWay
          refine uncrossed ⟨sync, reply, deepest⟩ letter there ?_
          rw [same]
          exact ⟨sync', reply', deepest'⟩
        · intro careful' busy
          refine (patient careful').nested sync fun stack => busy ?_
          exact kept.idle stack
        · intro careful' idle
          have stack : (w r).tracker.stack = [] := by
            rw [kept.stack]
            exact List.map_eq_nil_iff.2 idle
          obtain ⟨waiting, handed⟩ := (patient careful').cleared sync stack
          simp [Party.seat, Party.backlog, waiting, handed]

/-- An end answers the call that it handles. -/
theorem answer (harmony : Harmony careful w) {c : Call} {calls : List Call} {m : Message}
    (busy : (w r).isHandling = true) (innermost : (w r).calls = c :: calls)
    (answers : Answers c m) :
    Harmony careful (w.act r ((w r).answer c m)) := by
  have kept := harmony.kept r
  have caller : c.caller = r.other := kept.handling busy (by rw [innermost]; rfl)
  rw [Party.answer_eq kept innermost caller answers]
  refine harmony.act kept.left ?_ ?_
  · rintro _ ⟨⟩
    exact Letter.sound_of_answers answers
  · have answered := (harmony.agrees r).answer innermost caller
    simpa [Letter.item?, Party.seat, Party.left, Party.backlog, innermost] using answered

/-- The answer that arrives belongs to the innermost call, which is one of this end. -/
theorem answered (harmony : Harmony careful w) {letter : Letter} {letters : List Letter} {c : Call}
    (inbox : (w r).inbox = letter :: letters) (answers : letter.answers = some c) :
    ∃ calls, (w r).calls = c :: calls ∧ c.caller = r ∧ Answers c letter.message ∧
      Agrees careful r { ((w r).opened letters).seat r with calls := calls }
        ((w r.other).seat r.other) := by
  have line : ((w r).seat r).line = .answer c :: letters.filterMap (Letter.item? r.other) := by
    simp [Party.seat, inbox, Letter.item?, answers]
  obtain ⟨calls, innermost, caller, agrees⟩ := (harmony.agrees r).complete line
  have sound := (harmony.kept r).letters letter (by rw [inbox]; exact List.mem_cons_self)
  exact ⟨calls, innermost, caller, sound.answers c answers, agrees⟩

/-- A call that arrives is held back or handled. -/
theorem received (harmony : Harmony careful w) {c : Call} {letters : List Letter}
    (free : (w r).isHandling = false) (inbox : (w r).inbox = { message := c.message } :: letters)
    (caller : c.caller = r.other) (sync : c.message.flags.sync = true)
    (ordinary : ¬ (c.message.flags.reply = true ∧ c.message.flags.sync = true)) :
    Harmony careful (w.act r (((w r).opened letters).take c.message, none)) := by
  have kept := (harmony.kept r).opened inbox
  have agrees := harmony.agrees r
  have line : ((w r).seat r).line = .call c :: letters.filterMap (Letter.item? r.other) := by
    simp [Party.seat, inbox, Letter.item?, sync, ← caller]
  have proper := (agrees.proper_of_line line).1
  have decides : Decides (((w r).opened letters).tracker.defers c.message = true) c
      ((w r).seat r).calls := kept.decides ((harmony.kept r).listening free) caller
  have same :
      ({ caller := ((w r).opened letters).tracker.role.other, message := c.message } : Call) = c := by
    rw [kept.role, ← caller]
  rw [Party.take_ordinary ordinary, if_pos sync, same]
  by_cases waits : ((w r).opened letters).tracker.defers c.message = true
  · rw [if_pos waits]
    refine harmony.actAlone (kept.holding ordinary) ?_
    rw [Party.seat_holding_call caller proper]
    refine agrees.hold line ?_ decides waits
    intro idle
    rw [kept.defers_of_idle idle] at waits
    contradiction
  · rw [if_neg waits]
    exact harmony.actAlone (kept.entered c) (agrees.dispatch line decides waits)

/-- An end takes what has arrived. -/
theorem receive (harmony : Harmony careful w) {letter : Letter} {letters : List Letter}
    (free : (w r).isHandling = false) (inbox : (w r).inbox = letter :: letters) :
    Harmony careful (w.act r (((w r).opened letters).take letter.message, none)) := by
  have kept := (harmony.kept r).opened inbox
  obtain ⟨m, answers⟩ := letter
  cases answers with
  | some c =>
    obtain ⟨calls, innermost, caller, answer, agrees⟩ := harmony.answered inbox rfl
    have rest : (((w r).opened letters).seat r).calls.tail = calls := by
      show (w r).calls.tail = calls
      rw [innermost, List.tail_cons]
    rw [Party.take_answer kept innermost caller answer]
    refine harmony.actAlone kept.left ?_
    rw [Party.seat_left, rest]
    exact agrees
  | none =>
    have sound := (harmony.kept r).letters _ (by rw [inbox]; exact List.mem_cons_self)
    cases sync : m.flags.sync with
    | false =>
      have same : ((w r).opened letters).seat r = (w r).seat r := by
        simp [Party.seat, Party.backlog, Party.opened, inbox, Letter.item?_notice r.other sync]
      obtain ⟨kept', seat⟩ := kept.take_notice sync
      refine harmony.actAlone kept' ?_
      rw [seat, same]
      exact harmony.agrees r
    | true =>
      exact harmony.received (c := { caller := r.other, message := m }) free inbox rfl sync
        (sound.ordinary rfl)

/-- An end fetches what had to wait. -/
theorem drain (harmony : Harmony careful w) : Harmony careful (w.act r ((w r).drain, none)) := by
  refine harmony.actAlone (harmony.kept r).drain ?_
  rw [Party.seat_drain]
  exact harmony.agrees r

/-- An end without open calls takes what had to wait. -/
theorem refeed (harmony : Harmony careful w) {m : Message} {handed : List Message}
    (stack : (w r).tracker.stack = []) (more : (w r).handed = m :: handed) :
    Harmony careful (w.act r (((w r).resumed handed).take m, none)) := by
  have kept := (harmony.kept r).resumed more
  have idle := (harmony.kept r).idle stack
  cases sync : m.flags.sync with
  | false =>
    have same : ((w r).resumed handed).seat r = (w r).seat r := by
      simp [Party.seat, Party.backlog, Party.resumed, more, sync]
    obtain ⟨kept', seat⟩ := kept.take_notice sync
    refine harmony.actAlone kept' ?_
    rw [seat, same]
    exact harmony.agrees r
  | true =>
    have ordinary := (harmony.kept r).waiting m (by
      rw [Party.backlog, more]
      exact List.mem_cons_self)
    have held : ((w r).seat r).held =
        { caller := r.other, message := m } :: (((w r).resumed handed).seat r).held := by
      simp [Party.seat, Party.backlog, Party.resumed, more, sync]
    have agrees := (harmony.agrees r).refeed idle held
    rw [Party.take_ordinary ordinary, kept.defers_of_idle idle, if_neg Bool.false_ne_true,
      if_pos sync, kept.role]
    refine harmony.actAlone (kept.entered _) ?_
    rw [Party.seat_entered]
    have none : (((w r).resumed handed).seat r).calls = [] := idle
    rw [none]
    exact agrees

/-- Every step keeps the agreement. -/
theorem step {permits : Rule} {w' : World} (harmony : Harmony careful w)
    (step : Step permits w w') (uncrossed : ∀ p m, permits p m → Uncrossed p m)
    (patient : careful → ∀ p m, permits p m → Patient p m) : Harmony careful w' := by
  cases step with
  | send free ordinary permitted few =>
    exact harmony.send free ordinary (uncrossed _ _ permitted)
      (fun careful' => patient careful' _ _ permitted) few
  | answer busy innermost answers => exact harmony.answer busy innermost answers
  | receive free inbox => exact harmony.receive free inbox
  | drain => exact harmony.drain
  | refeed stack more => exact harmony.refeed stack more

end Harmony

/-- The ends agree in every state that comes about where calls of the deepest level do not cross. -/
theorem Reachable.harmony_of_uncrossed {permits : Rule} {careful : Prop} {w : World}
    (reachable : Reachable permits w) (uncrossed : ∀ p m, permits p m → Uncrossed p m)
    (patient : careful → ∀ p m, permits p m → Patient p m) : Harmony careful w := by
  induction reachable with
  | start => exact .start careful
  | step _ step ih => exact ih.step step uncrossed patient

/-- No call of the deepest level comes under way to the child if the parent posts none. -/
theorem World.not_deepCall_act {w : World} {r : Role} {outcome : Party × Option Letter}
    (clear : ∀ letter ∈ (w .child).inbox, ¬ DeepCall letter.message)
    (inbox : ∀ letter ∈ outcome.1.inbox, letter ∈ (w r).inbox)
    (posted : r = .parent → ∀ letter ∈ outcome.2, ¬ DeepCall letter.message) :
    ∀ letter ∈ (w.act r outcome .child).inbox, ¬ DeepCall letter.message := by
  intro letter mem
  cases r with
  | child => exact clear letter (inbox letter mem)
  | parent =>
    rcases List.mem_append.1 mem with old | new
    · exact clear letter old
    · exact posted rfl letter (by simpa using new)

/-- Where the deepest level is left to the child, calls of this level do not cross, because none is
ever under way to the child. -/
theorem Reachable.uncrossed {permits : Rule} {w : World} (reachable : Reachable permits w)
    (considerate : ∀ p m, permits p m → Considerate p m) :
    Reachable (fun p m => permits p m ∧ Uncrossed p m) w ∧
      ∀ letter ∈ (w .child).inbox, ¬ DeepCall letter.message := by
  induction reachable with
  | start => exact ⟨.start, fun _ mem => nomatch mem⟩
  | @step w w' _ step ih =>
    obtain ⟨reachable, clear⟩ := ih
    have harmony : Harmony False w :=
      reachable.harmony_of_uncrossed (fun _ _ h => h.2) fun h => h.elim
    cases step with
    | @send r m free ordinary permitted few =>
      have shallow (parent : r = .parent) : ¬ DeepCall m := by
        intro deep
        have child := considerate _ _ permitted deep.sync deep.deepest
        rw [(harmony.kept r).role, parent] at child
        contradiction
      refine ⟨reachable.step (.send free ordinary ⟨permitted, ?_⟩ few), ?_⟩
      · intro deep
        cases r with
        | parent => exact absurd deep (shallow rfl)
        | child => exact clear
      · refine World.not_deepCall_act clear (fun letter mem => Party.inbox_give ▸ mem) ?_
        intro parent letter posted deep
        have flags := Party.flags_of_give posted
        exact shallow parent
          ⟨flags ▸ deep.sync, flags ▸ deep.reply, flags ▸ deep.deepest⟩
    | answer busy innermost answers =>
      refine ⟨reachable.step (.answer busy innermost answers), ?_⟩
      refine World.not_deepCall_act clear (fun letter mem => Party.inbox_answer ▸ mem) ?_
      intro _ letter posted deep
      have reply := deep.reply
      rw [Party.flags_of_answer posted, answers.reply] at reply
      contradiction
    | receive free inbox =>
      refine ⟨reachable.step (.receive free inbox), ?_⟩
      refine World.not_deepCall_act clear (fun letter mem => ?_) fun _ _ posted => nomatch posted
      rw [Party.inbox_take] at mem
      rw [inbox]
      exact List.mem_cons_of_mem _ mem
    | @drain r =>
      refine ⟨reachable.step .drain, ?_⟩
      exact World.not_deepCall_act clear (fun letter mem => mem) fun _ _ posted => nomatch posted
    | refeed stack more =>
      refine ⟨reachable.step (.refeed stack more), ?_⟩
      refine World.not_deepCall_act clear (fun letter mem => ?_) fun _ _ posted => nomatch posted
      rw [Party.inbox_take] at mem
      exact mem

/-- The ends agree in every state that comes about where the deepest level is left to the child. -/
theorem Reachable.harmony {permits : Rule} {careful : Prop} {w : World}
    (reachable : Reachable permits w) (considerate : ∀ p m, permits p m → Considerate p m)
    (patient : careful → ∀ p m, permits p m → Patient p m) : Harmony careful w :=
  (reachable.uncrossed considerate).1.harmony_of_uncrossed (fun _ _ h => h.2)
    fun careful' p m h => patient careful' p m h.1

/-! ## What the trackers can rely on -/

/-- Whatever the ends send, as long as the deepest level is left to the child, no tracker meets a
message that it refuses. An answer arrives when exactly the call that it answers is the innermost
one, an answer that is given to the innermost call is accepted, and once nothing is under way and
nothing waits, both ends have the same calls open. -/
theorem calls_agree {w : World} (reachable : Reachable Considerate w) (r : Role) :
    (w r).tracker.stack = transactions r (w r).calls ∧
    (∀ letter letters, (w r).inbox = letter :: letters →
      ∃ action, ((w r).tracker.receive letter.message).1 = .ok action ∧
        (letter.message.flags.reply = true ∧ letter.message.flags.sync = true →
          ∃ c, letter.answers = some c ∧ (w r).calls.head? = some c ∧ c.caller = r ∧
            Answers c letter.message ∧
            action = if letter.message.flags.replyError then .replyError letter.message
              else .reply letter.message)) ∧
    (∀ m handed, (w r).handed = m :: handed →
      ∃ action, ((w r).tracker.receive m).1 = .ok action) ∧
    ((w r).isHandling = true →
      ∃ c, (w r).calls.head? = some c ∧ c.caller = r.other ∧
        (∀ m, Answers c m → ((w r).tracker.send m).1 = .ok ()) ∧
        (∀ type, Answers c (c.message.reply type)) ∧
        (∀ level, Answers c ((Message.dispatchFailure level).setTransaction c.id))) ∧
    ((∀ s, (w s).inbox = [] ∧ (w s).handed = [] ∧ (w s).tracker.waiting = []) →
      (w .parent).calls = (w .child).calls) := by
  have harmony : Harmony False w := reachable.harmony (fun _ _ h => h) (fun h => h.elim)
  have kept := harmony.kept r
  refine ⟨kept.stack, ?_, ?_, ?_, ?_⟩
  · intro letter letters inbox
    have sound := kept.letters letter (by rw [inbox]; exact List.mem_cons_self)
    cases answers : letter.answers with
    | some c =>
      obtain ⟨calls, innermost, caller, answer, -⟩ := harmony.answered inbox answers
      refine ⟨_, congrArg Prod.fst (kept.receive_answer innermost caller answer), fun _ => ?_⟩
      exact ⟨c, rfl, by rw [innermost]; rfl, caller, answer, rfl⟩
    | none =>
      obtain ⟨action, accepted⟩ := (w r).tracker.receive_isOk (sound.ordinary answers)
      exact ⟨action, accepted, fun answer => absurd answer (sound.ordinary answers)⟩
  · intro m handed more
    refine (w r).tracker.receive_isOk (kept.waiting m ?_)
    rw [Party.backlog, more]
    exact List.mem_cons_self
  · intro busy
    obtain ⟨c, head⟩ := kept.head_of_handling busy
    have caller := kept.handling busy head
    obtain ⟨calls, innermost⟩ := List.head?_eq_some_iff.1 head
    obtain ⟨outer, mine, within⟩ := (harmony.agrees r).handled innermost caller
    refine ⟨c, head, caller, ?_, answers_reply within.tower.proper, answers_failure c⟩
    intro m answers
    rw [kept.send_answer innermost caller answers]
  · intro quiet
    have line (s : Role) : ((w s).seat s).line = [] := by simp [Party.seat, (quiet s).1]
    have held (s : Role) : ((w s).seat s).held = [] := by
      simp [Party.seat, Party.backlog, (quiet s).2.1, (quiet s).2.2]
    exact (harmony.agrees .parent).mirror (line _) (line _) (held _) (held _)

/-- Both ends have called and neither call has arrived. -/
def crossing : World :=
  let call (level : Level) : Message := .addressed 1 2 { level, sync := true }
  let called := World.start.act .parent ((World.start .parent).give (call .insideSync))
  called.act .child ((called .child).give (call .notNested))

/-- Two crossing calls come about when each end makes one, also where the ends are patient. -/
theorem reachable_crossing : Reachable Patient crossing := by
  refine .step (.step .start (.send rfl (by decide) ?_ (by decide)))
    (.send rfl (by decide) ?_ (by decide))
  · exact ⟨fun _ h => by contradiction, fun _ h => absurd rfl h, fun _ _ => ⟨rfl, rfl⟩⟩
  · exact ⟨fun _ h => by contradiction, fun _ h => absurd rfl h, fun _ _ => ⟨rfl, rfl⟩⟩

/-- What comes about under a rule comes about under every weaker one. -/
theorem Reachable.mono {permits permits' : Rule} {w : World} (reachable : Reachable permits w)
    (weaker : ∀ p m, permits p m → permits' p m) : Reachable permits' w := by
  induction reachable with
  | start => exact .start
  | step _ step ih =>
    refine .step ih ?_
    cases step with
    | send free ordinary permitted few => exact .send free ordinary (weaker _ _ permitted) few
    | answer busy innermost answers => exact .answer busy innermost answers
    | receive free inbox => exact .receive free inbox
    | drain => exact .drain
    | refeed stack more => exact .refeed stack more

/-- The child handles the parent's call although it waits for an answer itself, and the parent lets
the child's call wait. Then the answer finds the call that it answers. -/
theorem calls_agree_crossing :
    ∃ w, Reachable Considerate w ∧ (w .parent).tracker.waiting ≠ [] ∧
      ∃ letter c, (w .parent).inbox = [letter] ∧ letter.answers = some c ∧
        (w .parent).calls.head? = some c ∧
        ((w .parent).tracker.receive letter.message).1 = .ok (.reply letter.message) := by
  have crossed : Reachable Considerate crossing :=
    reachable_crossing.mono fun _ _ patient => patient.considerate
  have handled := crossed.step (.receive (r := .child) rfl rfl)
  have answered := handled.step
    (.answer (r := .child) rfl rfl (answers_reply ⟨rfl, rfl⟩ 3))
  have held := answered.step (.receive (r := .parent) rfl rfl)
  obtain ⟨-, receives, -⟩ := calls_agree held .parent
  obtain ⟨action, accepted, answer⟩ := receives _ _ rfl
  obtain ⟨c, answers, head, -, -, rfl⟩ := answer ⟨rfl, rfl⟩
  exact ⟨_, held, List.cons_ne_nil _ _, _, c, rfl, answers, head, accepted⟩

/-- Where the ends are patient, they never both wait for an answer while nothing is under way. -/
theorem never_deadlocked {w : World} (reachable : Reachable Patient w) :
    ¬ ∀ r, (w r).isWaiting = true ∧ (w r).inbox = [] := by
  intro stuck
  have harmony : Harmony True w :=
    reachable.harmony (fun _ _ patient => patient.considerate) (fun _ _ _ patient => patient)
  have line (r : Role) : ((w r).seat r).line = [] := by simp [Party.seat, (stuck r).2]
  obtain ⟨c, head, caller⟩ := (harmony.kept .parent).head_of_waiting (stuck .parent).1
  obtain ⟨d, head', caller'⟩ := (harmony.kept .child).head_of_waiting (stuck .child).1
  exact (harmony.agrees .parent).not_stuck trivial (line _) (line _) head caller head' caller'

/-- While both ends wait for an answer, the calls are under way. -/
theorem never_deadlocked_crossing :
    (∀ r, (crossing r).isWaiting = true) ∧ ¬ ∀ r, (crossing r).isWaiting = true ∧
      (crossing r).inbox = [] := by
  refine ⟨?_, never_deadlocked reachable_crossing⟩
  intro r
  cases r <;> rfl

end Interprocess
