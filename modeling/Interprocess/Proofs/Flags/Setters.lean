import Interprocess.Proofs.Flags.Packed
import Mathlib.Data.List.Induction

/-!
# Flags that are built and then changed

Flags come about in four ways (`Origin`), and five operations change them afterwards (`Setter`).
Both are defined twice, on words through masks and on the fields of `Flags`, and shown to agree.
What any sequence of setters does to the fields is one equation, `after_eq`. The main statement is
`fields_kept_apart`: the word stays one that is accepted, a level and a priority are always found in
it, and each field is the built one or what the setters for it say.
-/

set_option autoImplicit false

namespace Interprocess.Flags

/-- How flags come about. -/
inductive Origin
  | standard
  | ofLevel (level : Level)
  | ofFields (level : Level) (priority : Priority) (compression : Compression)
      (lazySend constructor sync reply : Bool)
  | ofWord (word : UInt32)

/-- The flags that come about, as fields. -/
def Origin.build : Origin → Except BitsError Flags
  | standard => .ok {}
  | ofLevel level => .ok { level }
  | ofFields level priority compression lazySend constructor sync reply =>
    .ok { level, priority, compression, lazySend, constructor, sync, reply }
  | ofWord word => ofBits word

/-- The flags that come about, as one word. -/
def Origin.pack : Origin → Except BitsError Packed
  | standard => .ok (.ofLevel .notNested)
  | ofLevel level => .ok (.ofLevel level)
  | ofFields level priority compression lazySend constructor sync reply =>
    .ok (.new level priority compression lazySend constructor sync reply)
  | ofWord word => Packed.ofWord word

/-- How flags are changed. -/
inductive Setter
  | constructor
  | sync
  | reply
  | replyError
  | relay (on : Bool)
deriving DecidableEq, Repr

/-- Changes flags as fields. -/
def apply (f : Flags) : Setter → Flags
  | .constructor => f.asConstructor
  | .sync => f.asSync
  | .reply => f.asReply
  | .replyError => f.asReplyError
  | .relay on => f.withRelay on

/-- Changes flags as one word. -/
def Packed.apply (p : Packed) : Setter → Packed
  | .constructor => p.insert Mark.constructor.mask
  | .sync => p.insert Mark.sync.mask
  | .reply => p.insert Mark.reply.mask
  | .replyError => p.insert (Mark.reply.mask ||| Mark.replyError.mask)
  | .relay on => p.put .relay on

/-- Flags after several setters. -/
def after (f : Flags) (ss : List Setter) : Flags := ss.foldl apply f

/-- The word of flags after several setters. -/
def Packed.after (p : Packed) (ss : List Setter) : Packed := ss.foldl Packed.apply p

/-! ## Both forms agree -/

/-- The word of a level is that of flags with this level and nothing else. -/
theorem ofLevel_eq (level : Level) : Packed.ofLevel level = ({ level } : Flags).packed := by
  cases level <;> rfl

/-- The word of a level and a priority is that of flags with these two and nothing else. -/
theorem ofNumbers_eq (level : Level) (priority : Priority) :
    Packed.ofNumbers level priority = ({ level, priority } : Flags).packed := by
  cases level <;> cases priority <;> rfl

/-- Setting the mark of a compression adds this compression to flags without any. -/
theorem compress_eq (level : Level) (priority : Priority) (compression : Compression) :
    ({ level, priority } : Flags).packed.compress compression =
      ({ level, priority, compression } : Flags).packed := by
  cases compression with
  | none => rfl
  | enabled =>
    apply Packed.put_packed .compress true
    simp [number, bears, Mark.index, compressionNumber]
  | all =>
    apply Packed.put_packed .compressAll true
    simp [number, bears, Mark.index, compressionNumber]

/-- The word that is put together from all fields is that of the flags with these fields. -/
theorem new_eq (level : Level) (priority : Priority) (compression : Compression)
    (lazySend constructor sync reply : Bool) :
    Packed.new level priority compression lazySend constructor sync reply =
      ({ level, priority, compression, lazySend, constructor, sync, reply } : Flags).packed := by
  rw [Packed.new, ofNumbers_eq, compress_eq, Packed.put_mark _ (by decide),
    Packed.put_mark _ (by decide), Packed.put_mark _ (by decide), Packed.put_mark _ (by decide)]
  rfl

/-- Flags come about in the same way in both forms, or are refused for the same reason. -/
theorem pack_eq (o : Origin) : o.pack = o.build.map packed := by
  cases o with
  | standard => exact congrArg Except.ok (ofLevel_eq .notNested)
  | ofLevel level => exact congrArg Except.ok (ofLevel_eq level)
  | ofFields level priority compression lazySend constructor sync reply =>
    exact congrArg Except.ok (new_eq level priority compression lazySend constructor sync reply)
  | ofWord word => exact Packed.ofWord_eq word

/-- Flags that come about as a word come about as fields, and this is their word. -/
theorem Origin.exists_build {o : Origin} {start : Packed} (packs : o.pack = .ok start) :
    ∃ f : Flags, o.build = .ok f ∧ start = f.packed := by
  rw [pack_eq] at packs
  cases built : o.build with
  | error e =>
    rw [built] at packs
    contradiction
  | ok f =>
    rw [built] at packs
    exact ⟨f, rfl, (Except.ok.inj packs).symm⟩

/-- A setter does the same in both forms. -/
theorem apply_packed (f : Flags) (s : Setter) : f.packed.apply s = (f.apply s).packed := by
  cases s with
  | constructor => exact Packed.put_mark f (k := .constructor) (by decide) true
  | sync => exact Packed.put_mark f (k := .sync) (by decide) true
  | reply => exact Packed.put_mark f (k := .reply) (by decide) true
  | replyError =>
    have first : f.packed.insert Mark.reply.mask = (f.mark .reply true).packed :=
      Packed.put_mark f (by decide) true
    have second : (f.mark .reply true).packed.insert Mark.replyError.mask = f.asReplyError.packed :=
      Packed.put_mark (f.mark .reply true) (by decide) true
    have both : f.packed.insert (Mark.reply.mask ||| Mark.replyError.mask) =
        (f.packed.insert Mark.reply.mask).insert Mark.replyError.mask :=
      congrArg Packed.mk (UInt32.or_assoc _ _ _).symm
    rw [Packed.apply, both, first, second]
    rfl
  | relay on => exact Packed.put_mark f (by decide) on

/-- Several setters do the same in both forms. -/
theorem after_packed (f : Flags) (ss : List Setter) : f.packed.after ss = (f.after ss).packed := by
  induction ss generalizing f with
  | nil => rfl
  | cons s ss ih =>
    rw [Packed.after, List.foldl_cons, apply_packed]
    exact ih (f.apply s)

/-! ## Any sequence of setters -/

/-- What the last setter for it says about relaying. -/
def lastRelay? (ss : List Setter) : Option Bool :=
  (ss.filterMap fun | .relay on => some on | _ => none).getLast?

/-- A sequence of setters puts marks on, never takes any off but the one for relaying, and touches
nothing else. -/
theorem after_eq (f : Flags) (ss : List Setter) :
    f.after ss =
      { f with
        constructor := f.constructor || ss.contains .constructor
        sync := f.sync || ss.contains .sync
        reply := f.reply || ss.contains .reply || ss.contains .replyError
        replyError := f.replyError || ss.contains .replyError
        relay := (lastRelay? ss).getD f.relay } := by
  induction ss using List.reverseRecOn with
  | nil => simp [after, lastRelay?]
  | append_singleton ss s ih =>
    have last : f.after (ss ++ [s]) = (f.after ss).apply s := by
      rw [after, after, List.foldl_append]
      rfl
    rw [last, ih]
    cases s with
    | constructor => simp [apply, asConstructor, lastRelay?]
    | sync => simp [apply, asSync, lastRelay?]
    | reply => simp [apply, asReply, lastRelay?]
    | replyError => simp [apply, asReplyError, lastRelay?]
    | relay on => simp [apply, withRelay, lastRelay?]

/-- A word is accepted exactly if its bits say so. However flags come about, all of their fields are
found in the word, and no sequence of setters makes one field run into another: the word is accepted
again, its level, its priority, its compression and its mark for waiting are the built ones, the
marks of roles are put on by their setters and never taken off, and the mark for relaying is what
was said last. -/
theorem fields_kept_apart :
    (∀ word, (∃ p, Packed.ofWord word = .ok p) ↔ Grammar word) ∧
      (∀ o : Origin, o.pack = o.build.map packed) ∧
      ∀ (o : Origin) (start : Packed), o.pack = .ok start →
        ∃ f : Flags, o.build = .ok f ∧ ∀ ss : List Setter,
          let p := start.after ss
          Packed.ofWord p.word = .ok p ∧ ofBits p.word = .ok (f.after ss) ∧
            p.level? = some f.level ∧ p.priority? = some f.priority ∧
            p.compression = f.compression ∧ p.has .lazySend = f.lazySend ∧
            p.has .sync = (f.sync || ss.contains .sync) ∧
            p.has .constructor = (f.constructor || ss.contains .constructor) ∧
            p.has .reply = (f.reply || ss.contains .reply || ss.contains .replyError) ∧
            p.has .replyError = (f.replyError || ss.contains .replyError) ∧
            p.has .relay = (lastRelay? ss).getD f.relay := by
  refine ⟨fun word => ?_, pack_eq, fun o start packs => ?_⟩
  · rw [← exists_ofBits_iff, Packed.ofWord_eq]
    cases ofBits word with
    | ok f => exact iff_of_true ⟨f.packed, rfl⟩ ⟨f, rfl⟩
    | error e =>
      refine iff_of_false (fun ⟨p, accepted⟩ => ?_) fun ⟨f, accepted⟩ => ?_
      · contradiction
      · contradiction
  · obtain ⟨f, built, rfl⟩ := Origin.exists_build packs
    refine ⟨f, built, fun ss => ?_⟩
    have fields := after_eq f ss
    rw [after_packed]
    refine ⟨Packed.ofWord_packed _, ofBits_bits _, ?_, ?_, ?_, ?_, ?_, ?_, ?_, ?_, ?_⟩
    · rw [Packed.level?_packed, fields]
    · rw [Packed.priority?_packed, fields]
    · rw [Packed.compression_packed, fields]
    all_goals
      rw [Packed.has_packed, fields]
      rfl

/-- All fields are in use, both ends of the word too, and relaying is asked for and taken back. -/
theorem fields_kept_apart_crowded :
    let o : Origin := .ofFields .insideCpow .control .all true false true false
    let ss : List Setter := [.replyError, .relay true, .constructor, .relay false]
    ∃ start, o.pack = .ok start ∧ (start.after ss).word = 0x0DF3 ∧
      (start.after ss).level? = some .insideCpow ∧ (start.after ss).priority? = some .control ∧
      (start.after ss).compression = .all ∧ (start.after ss).has .relay = false := by
  intro o ss
  obtain ⟨-, -, kept⟩ := fields_kept_apart
  obtain ⟨f, built, fields⟩ := kept o _ rfl
  obtain rfl := Except.ok.inj built
  obtain ⟨-, -, level, priority, compression, -, -, -, -, -, relay⟩ := fields ss
  exact ⟨_, rfl, by decide, level, priority, compression, relay⟩

end Interprocess.Flags
