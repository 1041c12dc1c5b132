import Interprocess.Proofs.Call.Dialogue
import Interprocess.Proofs.Flags.Setters
import Interprocess.Proofs.Stream.Reassembly

/-!
# What is sent and what is received

A sender builds flags and changes them by setters; `Flags.Sendable` are the words that it can come
to. A receiver looks at each field of a word by itself, so it also accepts words with the mark of a
failure and without the mark of a reply. These are the only ones that no sender comes to, and
nothing behind the receiver sorts them out. The main statement is `sendable_unless_stray`: what is
received could have been sent unless it is such a stray failure, and among the failures of calls a
tracker takes the stray ones for calls and no others.
-/

set_option autoImplicit false

namespace Interprocess

namespace Flags

/-- Flags that are built, rather than read. -/
def Origin.isOwn : Origin → Bool
  | ofWord _ => false
  | _ => true

/-- The words of flags that are built and then changed. -/
def Sendable (word : UInt32) : Prop :=
  ∃ (o : Origin) (start : Packed) (ss : List Setter),
    o.isOwn = true ∧ o.pack = .ok start ∧ (start.after ss).word = word

/-- A failure that answers nothing. -/
def isStray (f : Flags) : Bool := f.replyError && !f.reply

/-- Different flags have different words. -/
theorem bits_injective : Function.Injective bits := by
  intro f g same
  have read := ofBits_bits f
  rw [same, ofBits_bits] at read
  exact (Except.ok.inj read).symm

/-- Nothing is built as a failure; it takes a setter to make it one. -/
theorem Origin.replyError_eq_false {o : Origin} (own : o.isOwn = true) {f : Flags}
    (built : o.build = .ok f) : f.replyError = false := by
  cases o with
  | standard | ofLevel | ofFields =>
    obtain rfl := Except.ok.inj built
    rfl
  | ofWord word => contradiction

/-- The setters that are left when flags are built with all fields but two. -/
def finish (f : Flags) : List Setter :=
  (if f.replyError then [.replyError] else []) ++ [.relay f.relay]

/-- The setters that are left bring the flags about, unless a failure would answer nothing. -/
theorem after_finish {f : Flags} (answers : f.isStray = false) :
    ({ f with replyError := false, relay := false } : Flags).after f.finish = f := by
  obtain ⟨level, priority, compression, lazySend, constructor, sync, reply, replyError, relay⟩ := f
  cases replyError with
  | false => rfl
  | true =>
    have reply : reply = true := by simpa [isStray] using answers
    subst reply
    rfl

/-- Flags whose failure answers something can be sent. -/
theorem sendable_of_isStray {f : Flags} (answers : f.isStray = false) : Sendable f.bits := by
  refine ⟨.ofFields f.level f.priority f.compression f.lazySend f.constructor f.sync f.reply, _,
    f.finish, rfl, pack_eq _, ?_⟩
  rw [after_packed]
  exact congrArg bits (after_finish answers)

/-- A word that can be sent is one of flags whose failure, if any, answers something. -/
theorem Sendable.exists_flags {word : UInt32} (sendable : Sendable word) :
    ∃ f : Flags, f.bits = word ∧ f.isStray = false := by
  obtain ⟨o, start, ss, own, packs, rfl⟩ := sendable
  obtain ⟨g, built, rfl⟩ := Origin.exists_build packs
  refine ⟨g.after ss, ?_, ?_⟩
  · rw [after_packed]
    rfl
  · -- the one setter that marks a failure marks a reply too
    rw [after_eq, isStray, Origin.replyError_eq_false own built]
    cases ss.contains .replyError <;> simp

/-- Flags can be sent exactly if they have no failure that answers nothing. -/
theorem sendable_bits_iff (f : Flags) : Sendable f.bits ↔ f.isStray = false := by
  constructor
  · intro sendable
    obtain ⟨g, same, answers⟩ := sendable.exists_flags
    rw [← bits_injective same]
    exact answers
  · exact sendable_of_isStray

/-- A failure answers something exactly if its bit is set together with the one of a reply. -/
theorem isStray_eq_false_iff (f : Flags) :
    f.isStray = false ↔ (f.bits &&& 0x80 ≠ 0 → f.bits &&& 0x40 ≠ 0) := by
  obtain ⟨-, reply, replyError, -⟩ := marked_bits f
  have reply' : marked f.bits 64 ↔ f.bits &&& 0x40 ≠ 0 := marked_iff f.bits 6 (by decide)
  have replyError' : marked f.bits 128 ↔ f.bits &&& 0x80 ≠ 0 := marked_iff f.bits 7 (by decide)
  rw [← reply', ← replyError', reply, replyError, isStray]
  cases f.replyError <;> cases f.reply <;> simp

/-- The words that can be sent are those that are accepted and have no failure without a reply. -/
theorem sendable_iff (word : UInt32) :
    Sendable word ↔ Grammar word ∧ (word &&& 0x80 ≠ 0 → word &&& 0x40 ≠ 0) := by
  constructor
  · intro sendable
    obtain ⟨f, rfl, answers⟩ := sendable.exists_flags
    exact ⟨exists_ofBits_iff.1 ⟨f, ofBits_bits f⟩, f.isStray_eq_false_iff.1 answers⟩
  · rintro ⟨grammar, implied⟩
    obtain ⟨f, accepted⟩ := exists_ofBits_iff.2 grammar
    obtain rfl := bits_of_ofBits accepted
    exact sendable_of_isStray (f.isStray_eq_false_iff.2 implied)

end Flags

/-! ## What is received -/

/-- The flags of a message are the word at their place in its bytes. -/
theorem Message.bits_of_decode {bs : ByteArray} {m : Message} (accepted : decode bs = .ok m) :
    m.flags.bits = wordAt bs 12 := by
  obtain ⟨header, _, sound, -, -, -, rfl⟩ := decode_eq_ok_iff.1 accepted
  obtain ⟨-, bits, -⟩ := Header.words_of_decode sound
  exact bits

/-- A message that comes out of a stream was read from a part of it. -/
theorem StreamBuffer.exists_decode_of_mem_intake {limit : UInt32} {moves : List Move} {m : Message}
    (mem : .ok m ∈ ((empty limit).intake moves).results) :
    ∃ start stop, Message.decode ((fed moves).extract start stop) = .ok m := by
  obtain ⟨results, -⟩ := intake_eq_parseFrom (Nat.zero_le _) (empty_extend limit (fed moves))
  rw [results] at mem
  exact exists_decode_of_mem_parseFrom mem

namespace Tracker

variable {t : Tracker} {m : Message}

/-- A message that arrives is taken for a call of the other end. -/
def TakesForCall (t : Tracker) (m : Message) : Prop :=
  t.receive m =
    (.ok (.dispatch m),
      { t with
        stack := { id := m.header.transaction, level := m.flags.level, outgoing := false } ::
          t.stack })

/-- A message is taken for a call of the other end if it is synchronous, no reply, and does not have
to wait. -/
theorem takesForCall_iff :
    t.TakesForCall m ↔ m.flags.reply = false ∧ m.flags.sync = true ∧ t.defers m = false := by
  constructor
  · intro taken
    have received := t.received m
    have grows : (t.receive m).2.stack.length = t.stack.length + 1 := by
      rw [taken]
      rfl
    generalize t.receive m = result at received grows
    -- nothing but a call makes the stack longer
    cases received with
    | call reply sync now => exact ⟨reply, sync, now⟩
    | answer _ _ stack =>
      simp only [stack, List.length_cons] at grows
      omega
    | stray | waits | notice => exact absurd grows.symm (Nat.succ_ne_self _)
  · rintro ⟨reply, sync, now⟩
    have ordinary : ¬ (m.flags.reply = true ∧ m.flags.sync = true) := by
      rw [reply]
      exact fun answer => Bool.false_ne_true answer.1
    rw [TakesForCall, receive_of_not_answer ordinary, now]
    simp only [accept, sync, Bool.false_eq_true, if_false, if_true]

/-- A reply that reports a failure completes the innermost transaction or is refused. -/
theorem receive_failure (reply : m.flags.reply = true) (sync : m.flags.sync = true)
    (failure : m.flags.replyError = true) :
    t.receive m = (.ok (.replyError m), { t with stack := t.stack.tail }) ∨
      ∃ e, t.receive m = (.error e, t) := by
  have received := t.received m
  generalize t.receive m = result at received ⊢
  cases received with
  | answer _ _ stack =>
    rw [failure, stack]
    exact Or.inl rfl
  | stray e => exact Or.inr ⟨e, rfl⟩
  | waits ordinary => exact absurd ⟨reply, sync⟩ ordinary
  | call ordinary =>
    rw [reply] at ordinary
    contradiction
  | notice notice =>
    rw [sync] at notice
    contradiction

end Tracker

namespace Flags

/-- Exactly the words without a failure that answers nothing could have been sent, of all words that
are accepted, of all messages that are read from a row of bytes, and of all that come out of a
stream. Where a message reports a failure, a tracker takes it for a call just if it is such a stray
failure, is marked as synchronous and need not wait; a failure that answers a call completes the
innermost transaction or is refused. -/
theorem sendable_unless_stray (word limit : UInt32) (bs : ByteArray) (moves : List Move)
    (t : Tracker) :
    (Sendable word ↔ Grammar word ∧ (word &&& 0x80 ≠ 0 → word &&& 0x40 ≠ 0)) ∧
      (∀ f, ofBits word = .ok f → (Sendable word ↔ f.isStray = false)) ∧
      (∀ m, Message.decode bs = .ok m → (Sendable (wordAt bs 12) ↔ m.flags.isStray = false)) ∧
      (∀ m : Message, .ok m ∈ ((StreamBuffer.empty limit).intake moves).results →
        ∃ start stop, Message.decode ((fed moves).extract start stop) = .ok m ∧
          (Sendable m.flags.bits ↔ m.flags.isStray = false)) ∧
      ∀ m : Message, m.flags.replyError = true →
        (t.TakesForCall m ↔
            m.flags.isStray = true ∧ m.flags.sync = true ∧ t.defers m = false) ∧
          (m.flags.isStray = false → m.flags.sync = true →
            t.receive m = (.ok (.replyError m), { t with stack := t.stack.tail }) ∨
              ∃ e, t.receive m = (.error e, t)) := by
  refine ⟨sendable_iff word, ?_, ?_, ?_, ?_⟩
  · intro f accepted
    rw [← bits_of_ofBits accepted]
    exact sendable_bits_iff f
  · intro m accepted
    rw [← Message.bits_of_decode accepted]
    exact sendable_bits_iff m.flags
  · intro m mem
    obtain ⟨start, stop, accepted⟩ := StreamBuffer.exists_decode_of_mem_intake mem
    exact ⟨start, stop, accepted, sendable_bits_iff m.flags⟩
  · intro m failure
    constructor
    · rw [Tracker.takesForCall_iff, isStray, failure]
      simp
    · intro answers sync
      rw [isStray, failure, Bool.true_and, Bool.not_eq_false'] at answers
      exact Tracker.receive_failure answers sync failure

/-- The message about a failed call comes out of a stream and completes the parent's call. -/
theorem sendable_unless_stray_failure :
    let failure := (Message.dispatchFailure .insideSync).setTransaction 1
    let call : Transaction := { id := 1, level := .insideSync, outgoing := true }
    let t : Tracker := { role := .parent, lastSeqno := 1, stack := [call] }
    .ok failure ∈ ((StreamBuffer.empty 64).intake [.feed failure.encode]).results ∧
      Sendable failure.flags.bits ∧ ¬ t.TakesForCall failure ∧
      t.receive failure = (.ok (.replyError failure), { t with stack := [] }) := by
  intro failure call t
  have arrives :
      ((StreamBuffer.empty 64).intake [.feed failure.encode]).results = [.ok failure] := by
    decide +kernel
  have mem : .ok failure ∈ ((StreamBuffer.empty 64).intake [.feed failure.encode]).results := by
    rw [arrives]
    exact List.mem_singleton_self _
  obtain ⟨-, -, -, stream, tracker⟩ :=
    sendable_unless_stray failure.flags.bits 64 failure.encode [.feed failure.encode] t
  obtain ⟨start, stop, -, sendable⟩ := stream failure mem
  obtain ⟨stray, completes⟩ := tracker failure rfl
  have known : ¬ t.TakesForCall failure := fun taken => nomatch (stray.1 taken).1
  refine ⟨mem, sendable.2 rfl, known, ?_⟩
  rcases completes rfl rfl with completed | ⟨e, refused⟩
  · exact completed
  · exact nomatch congrArg Prod.fst refused

/-- A call that is marked as a failure, as nobody sends it. -/
def strayCall : ByteArray := (Word.pack [0, 7, 2, 0xA1, 0, 5, 0, 0]).toByteArray

/-- Flags are accepted that nobody sends: a failure that answers nothing comes out of a stream, and
the parent takes it for a call of the child. -/
theorem stray_failure_received :
    (∃ f, ofBits 0xA1 = .ok f) ∧ ¬ Sendable 0xA1 ∧
      ∃ m, Message.decode strayCall = .ok m ∧
        .ok m ∈ ((StreamBuffer.empty 64).intake [.feed strayCall]).results ∧
        m.flags.replyError = true ∧ m.flags.reply = false ∧
        (Tracker.start .parent).TakesForCall m := by
  refine ⟨⟨_, rfl⟩, ?_, ?_⟩
  · rw [sendable_iff]
    decide
  · let m : Message :=
      (Message.addressed 7 2 { sync := true, replyError := true }).setTransaction 5
    have decoded : Message.decode strayCall = .ok m := by decide +kernel
    have arrives : ((StreamBuffer.empty 64).intake [.feed strayCall]).results = [.ok m] := by
      decide +kernel
    refine ⟨m, decoded, ?_, rfl, rfl, Tracker.takesForCall_iff.2 ⟨rfl, rfl, rfl⟩⟩
    rw [arrives]
    exact List.mem_singleton_self _

end Flags

end Interprocess
