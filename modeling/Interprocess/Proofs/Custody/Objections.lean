import Interprocess.Proofs.Custody.Rows
import Interprocess.Session.Messages

/-!
# Operations that a message objects to

A message objects to an operation if it cannot have one more file handle, if attachments arrive
where there are some, if its footer cannot be copied as asked, or if a slot that is asked for is
empty or not there. Each of these checks comes before anything is changed. So an objection leaves no
trace in the message, what the caller gave away is closed, and all other operations of a run come to
what they would have come to without it. The main statement is `Message.objection_without_trace`.
-/

set_option autoImplicit false

namespace Interprocess

namespace Message

/-- What a caller learns from an operation. A read also tells the place that the reader came to. -/
inductive Answer
  | done
  | refused (e : MessageError)
  | footer (buffer : ByteArray)
  | field (f : Field) (place : Nat)
  | unread (e : ReadError) (place : Nat)
  | handle (h : Option Handle)
  | port (p : Option Port)
  | moved (a : Attachments)
deriving DecidableEq

namespace Answer

/-- The answer of a step that changes a message. -/
def ofStep {α : Type} (done : α → Answer) : EStateM.Result MessageError Message α → Answer
  | .ok a _ => done a
  | .error e _ => refused e

/-- The answer of a reader. -/
def ofRead : EStateM.Result ReadError Reader Field → Answer
  | .ok f r => field f r.place
  | .error e r => unread e r.place

/-- Whether a message objects: for another reason than that a size does not fit into its header, or
because of a slot. -/
def isObjection : Answer → Bool
  | refused .sizeOverflow => false
  | refused _ => true
  | unread (.missingHandle _) _ | unread (.missingPort _) _ => true
  | _ => false

end Answer

namespace Operation

/-- What the caller learns from an operation. -/
def answer (m : Message) : Operation → Answer
  | write f => .ofStep (fun _ => .done) (f.write.run m)
  | writeFooter bs => .ofStep (fun _ => .done) ((Message.writeFooter bs).run m)
  | readFooter buffer truncate => .ofStep .footer ((Message.readFooter buffer truncate).run m)
  | read kind place => .ofRead (kind.read.run { message := m, place })
  | takeHandle => .handle m.takeHandle.1
  | takePort => .port m.takePort.1
  | attachHandles hs => .ofStep (fun _ => .done) ((Message.attachHandles hs).run m)
  | attachPorts ps => .ofStep (fun _ => .done) ((Message.attachPorts ps).run m)
  | takeAttachments => .moved m.takeAttachments.1
  | setRelay _ | setRouting _ | setTransaction _ | setSeqno _ => .done

end Operation

end Message

open Message (Operation Answer)

/-- The answer that there is nothing in the slot whose number is read at a place. -/
def Row.objection {α : Type} (row : Row α) (m : Message) (place : Nat) : Option Answer :=
  match (Reader.mk m place).index? with
  | none => none
  | some i =>
    match (row.slots m).get? i with
    | some _ => none
    | none => some (.unread (row.missing i) (place + 4))

namespace Message

/-- When a message objects to an operation, and what it answers. Slots count whether or not they
were emptied. -/
def Operation.objection (m : Message) : Operation → Option Answer
  | write (.handle _) => if descriptorLimit ≤ m.handleSlots then some (.refused .handleLimit) else none
  | attachHandles hs =>
    if m.handleSlots ≠ 0 then some (.refused .handlesPresent)
    else if descriptorLimit < hs.length then some (.refused .handleSurplus)
    else none
  | attachPorts _ => if m.portSlots ≠ 0 then some (.refused .portsPresent) else none
  | readFooter buffer _ =>
    if m.footer.size = 0 ∧ buffer.size ≠ 0 then some (.refused .noFooter)
    else if buffer.size < m.footer.size then
      some (.refused (.bufferTooSmall buffer.size m.footer.size))
    else none
  | read .handle place => Row.handles.objection m place
  | read .port place => Row.ports.objection m place
  | _ => none

/-- Either a message objects to an operation and stays as it is, or its answer is no objection. -/
inductive Objects (m : Message) (op : Operation) : Prop
  | objection (a : Answer) : op.objection m = some a → op.answer m = a → a.isObjection = true →
      (op.run m).2 = m → Objects m op
  | nothing : op.objection m = none → (op.answer m).isObjection = false → Objects m op

/-! ## Writing -/

/-- A step that is refused only because a size does not fit into the header. -/
def Overflows {α : Type} (step : MessageM α) : Prop :=
  ∀ (m : Message) (e : MessageError) (n : Message), step.run m = .error e n → e = .sizeOverflow

/-- Two steps that can only overflow can do nothing else one after the other. -/
theorem overflows_bind {α β : Type} {step : MessageM α} {next : α → MessageM β} (first : Overflows step)
    (second : ∀ a, Overflows (next a)) : Overflows (step >>= next) := by
  intro m e n failed
  rw [EStateM.run_bind] at failed
  cases run : step.run m with
  | ok a w =>
    rw [run] at failed
    exact second a w e n failed
  | error e' w =>
    rw [run] at failed
    cases failed
    exact first m e n run

/-- Bytes can be refused only because of the size. -/
theorem overflows_writeAligned (bs : ByteArray) : Overflows (writeAligned bs) := by
  intro m e n failed
  rw [run_writeAligned] at failed
  split at failed
  · contradiction
  · cases failed
    rfl

/-- Bytes with their length can be refused only because of the size. -/
theorem overflows_writeData (bs : ByteArray) : Overflows (writeData bs) := by
  refine overflows_bind ?_ fun _ =>
    overflows_bind (overflows_writeAligned _) fun _ => overflows_writeAligned bs
  intro m e n failed
  rw [run_liftNarrow] at failed
  split at failed
  · contradiction
  · cases failed
    rfl

/-- A port can be refused only because of the size. -/
theorem overflows_writePort (p : Port) : Overflows (writePort p) := by
  intro m e n failed
  rw [run_writePort] at failed
  dsimp only at failed
  split at failed
  · split at failed
    · contradiction
    · cases failed
      rfl
  · cases failed
    rfl

/-- A footer can be refused only because of the size. -/
theorem overflows_writeFooter (bs : ByteArray) : Overflows (Message.writeFooter bs) := by
  intro m e n failed
  rw [run_writeFooter] at failed
  split at failed
  · contradiction
  split at failed
  · contradiction
  · cases failed
    rfl

/-- A message never objects to an operation that can only overflow. -/
theorem Overflows.objects {α : Type} {step : MessageM α} (overflows : Overflows step) {m : Message}
    {op : Operation} {done : α → Answer} (answer : op.answer m = .ofStep done (step.run m))
    (none : op.objection m = none) (quiet : ∀ a, (done a).isObjection = false) : Objects m op := by
  refine .nothing none ?_
  rw [answer]
  cases run : step.run m with
  | ok a n => exact quiet a
  | error e n =>
    rw [overflows m e n run]
    rfl

/-- A message objects to a field only if it is a handle too many. -/
theorem objects_write (m : Message) (f : Field) : Objects m (.write f) := by
  cases f with
  | u32 | i32 | u64 | i64 | bool | bytes =>
    exact (overflows_writeAligned _).objects rfl rfl fun _ => rfl
  | data | text => exact (overflows_writeData _).objects rfl rfl fun _ => rfl
  | port p => exact (overflows_writePort p).objects rfl rfl fun _ => rfl
  | handle h =>
    have answer : Operation.answer m (.write (.handle h)) =
      .ofStep (fun _ => .done) ((writeHandle h).run m) := rfl
    have left : ((Operation.write (.handle h)).run m).2 = leaving ((writeHandle h).run m) := rfl
    rw [run_writeHandle] at answer left
    by_cases full : descriptorLimit ≤ m.handleSlots
    · rw [if_pos full] at answer left
      exact .objection _ (if_pos full) answer rfl left
    · refine .nothing (if_neg full) ?_
      rw [answer, if_neg full]
      split <;> rfl

/-! ## Attaching and reading -/

/-- A message objects to handles that arrive if it has slots for handles, or if they are too
many. -/
theorem objects_attachHandles (m : Message) (hs : List Handle) : Objects m (.attachHandles hs) := by
  have answer : Operation.answer m (.attachHandles hs) =
    .ofStep (fun _ => .done) ((Message.attachHandles hs).run m) := rfl
  have left : ((Operation.attachHandles hs).run m).2 = leaving ((Message.attachHandles hs).run m) := rfl
  have asked : (!m.attachments.handles.isEmpty) = true ↔ m.handleSlots ≠ 0 := by
    simp [handleSlots, Slots.size, Slots.isEmpty]
  rw [run_attachHandles] at answer left
  by_cases present : m.handleSlots ≠ 0
  · rw [if_pos (asked.2 present)] at answer left
    exact .objection _ (if_pos present) answer rfl left
  rw [if_neg (mt asked.1 present)] at answer left
  by_cases surplus : descriptorLimit < hs.length
  · rw [if_pos surplus] at answer left
    exact .objection _ ((if_neg present).trans (if_pos surplus)) answer rfl left
  · rw [if_neg surplus] at answer
    refine .nothing ((if_neg present).trans (if_neg surplus)) ?_
    rw [answer]
    rfl

/-- A message objects to ports that arrive if it has slots for ports. -/
theorem objects_attachPorts (m : Message) (ps : List Port) : Objects m (.attachPorts ps) := by
  have answer : Operation.answer m (.attachPorts ps) =
    .ofStep (fun _ => .done) ((Message.attachPorts ps).run m) := rfl
  have left : ((Operation.attachPorts ps).run m).2 = leaving ((Message.attachPorts ps).run m) := rfl
  have asked : (!m.attachments.ports.isEmpty) = true ↔ m.portSlots ≠ 0 := by
    simp [portSlots, Slots.size, Slots.isEmpty]
  rw [run_attachPorts] at answer left
  by_cases present : m.portSlots ≠ 0
  · rw [if_pos (asked.2 present)] at answer left
    exact .objection _ (if_pos present) answer rfl left
  · rw [if_neg (mt asked.1 present)] at answer
    refine .nothing (if_neg present) ?_
    rw [answer]
    rfl

/-- A message objects to reading its footer if there is none or the buffer is too small. -/
theorem objects_readFooter (m : Message) (buffer : ByteArray) (truncate : Bool) :
    Objects m (.readFooter buffer truncate) := by
  have answer : Operation.answer m (.readFooter buffer truncate) =
    .ofStep .footer ((Message.readFooter buffer truncate).run m) := rfl
  have left : ((Operation.readFooter buffer truncate).run m).2 =
    leaving ((Message.readFooter buffer truncate).run m) := rfl
  have asked : (m.footer.isEmpty && !buffer.isEmpty) = true ↔ m.footer.size = 0 ∧ buffer.size ≠ 0 := by
    simp [ByteArray.isEmpty]
  rw [run_readFooter] at answer left
  by_cases absent : m.footer.size = 0 ∧ buffer.size ≠ 0
  · rw [if_pos (asked.2 absent)] at answer left
    exact .objection _ (if_pos absent) answer rfl left
  rw [if_neg (mt asked.1 absent)] at answer left
  by_cases small : buffer.size < m.footer.size
  · rw [if_pos small] at answer left
    exact .objection _ ((if_neg absent).trans (if_pos small)) answer rfl left
  · rw [if_neg small] at answer
    refine .nothing ((if_neg absent).trans (if_neg small)) ?_
    rw [answer]
    split
    · split <;> rfl
    · rfl

/-- A slot that is asked for and empty is the only reason for an objection to a read. -/
theorem objects_read_row {α : Type} (row : Row α) (m : Message) (place : Nat) :
    Objects m (.read row.kind place) := by
  have asked : Operation.objection m (.read row.kind place) = row.objection m place := by
    cases row <;> rfl
  have answer : Operation.answer m (.read row.kind place) =
      .ofRead (row.kind.read.run { message := m, place }) := rfl
  have left : ((Operation.read row.kind place).run m).2 =
      (leaving (row.kind.read.run { message := m, place })).message := rfl
  rw [Row.objection, Reader.index?] at asked
  rw [Row.run_read, Row.run_consume] at answer left
  by_cases short : (Reader.mk m place).remaining < 4
  · rw [if_pos short] at asked answer
    refine .nothing asked ?_
    rw [answer]
    rfl
  rw [if_neg short] at asked answer left
  cases found : (row.slots m).get? (Reader.mk m place).word.toNat with
  | some a =>
    simp only [found] at asked answer
    refine .nothing asked ?_
    rw [answer]
    rfl
  | none =>
    simp only [found] at asked answer left
    refine .objection _ asked answer ?_ left
    cases row <;> rfl

/-- A message objects to a read if the slot whose number is read is empty or missing. -/
theorem objects_read (m : Message) (kind : Field.Kind) (place : Nat) : Objects m (.read kind place) := by
  have plain (asks : kind ≠ .handle ∧ kind ≠ .port)
      (none : Operation.objection m (.read kind place) = none) : Objects m (.read kind place) := by
    refine .nothing none ?_
    show (Answer.ofRead (kind.read.run { message := m, place })).isObjection = false
    have reads := Reader.reads_run { message := m, place } kind
    generalize kind.read.run { message := m, place } = result at reads ⊢
    cases reads with
    | cut | noBool | long | noText | whole => rfl
    | noHandle | handle => exact absurd rfl asks.1
    | noPort | port => exact absurd rfl asks.2
  cases kind with
  | handle => exact objects_read_row Row.handles m place
  | port => exact objects_read_row Row.ports m place
  | _ => exact plain ⟨by simp, by simp⟩ rfl

/-- Every operation is objected to as `Operation.objection` says, or not at all. -/
theorem objects (m : Message) (op : Operation) : Objects m op := by
  cases op with
  | write f => exact objects_write m f
  | writeFooter bs => exact (overflows_writeFooter bs).objects rfl rfl fun _ => rfl
  | readFooter buffer truncate => exact objects_readFooter m buffer truncate
  | read kind place => exact objects_read m kind place
  | attachHandles hs => exact objects_attachHandles m hs
  | attachPorts ps => exact objects_attachPorts m ps
  | takeHandle | takePort | takeAttachments | setRelay | setRouting | setTransaction | setSeqno =>
    exact .nothing rfl rfl

/-- An objection is announced exactly if the operation is answered by it. -/
theorem objection_iff {m : Message} {op : Operation} {a : Answer} :
    op.objection m = some a ↔ op.answer m = a ∧ a.isObjection = true := by
  cases m.objects op with
  | objection b objects answers objecting =>
    rw [objects, answers, Option.some.injEq]
    exact ⟨fun same => ⟨same, same ▸ objecting⟩, fun same => same.1⟩
  | nothing none quiet =>
    rw [none]
    refine ⟨nofun, ?_⟩
    rintro ⟨rfl, objecting⟩
    rw [quiet] at objecting
    contradiction

/-- A message stays as it is when it objects. -/
theorem run_of_objection {m : Message} {op : Operation} {a : Answer} (objects : op.objection m = some a) :
    (op.run m).2 = m := by
  cases m.objects op with
  | objection _ _ _ _ same => exact same
  | nothing none =>
    rw [none] at objects
    contradiction

/-- A step that is answered by an objection was refused. -/
theorem isSome_refusal {α : Type} {done : α → Answer} {result : EStateM.Result MessageError Message α}
    (quiet : ∀ a, (done a).isObjection = false)
    (objecting : (Answer.ofStep done result).isObjection = true) : (refusal result).isSome := by
  cases result with
  | ok a n =>
    rw [Answer.ofStep, quiet] at objecting
    contradiction
  | error e n => rfl

/-- What was given away with an operation is closed if the message objects. -/
theorem released_of_objection {m : Message} {op : Operation} {a : Answer}
    (objects : op.objection m = some a) : op.released m = closeAll op.taken := by
  obtain ⟨rfl, objecting⟩ := objection_iff.1 objects
  cases op with
  | write | writeFooter | readFooter | attachHandles | attachPorts =>
    exact if_pos (isSome_refusal (fun _ => rfl) objecting)
  | read => rfl
  | _ => contradiction

/-! ## Runs -/

/-- What a caller learns from operations, one after the other. -/
def answers (m : Message) : List Operation → List Answer
  | [] => []
  | op :: ops => op.answer m :: (op.run m).2.answers ops

/-- The operations that are left when those are dropped to which the message objects. -/
def kept (m : Message) : List Operation → List Operation
  | [] => []
  | op :: ops =>
    let rest := (op.run m).2.kept ops
    if (op.objection m).isSome then rest else op :: rest

/-- Without the operations to which it objects, a message becomes what it becomes with them, and all
others get the answers that they get. -/
theorem kept_same (m : Message) (ops : List Operation) :
    m.after (m.kept ops) = m.after ops ∧
      m.answers (m.kept ops) = (m.answers ops).filter fun a => !a.isObjection := by
  induction ops generalizing m with
  | nil => exact ⟨rfl, rfl⟩
  | cons op ops ih =>
    obtain ⟨after, answers⟩ := ih (op.run m).2
    have later : m.after (op :: ops) = (op.run m).2.after ops := rfl
    rw [kept, Message.answers, later]
    cases m.objects op with
    | objection a objects answer objecting same =>
      rw [objects, answer, List.filter_cons_of_neg (by simp [objecting])]
      rw [same] at after answers ⊢
      exact ⟨after, answers⟩
    | nothing none quiet =>
      rw [none, List.filter_cons_of_pos (by simp [quiet])]
      exact ⟨after, congrArg (op.answer m :: ·) answers⟩

end Message

/-! ## What is given away -/

namespace Session

/-- Doing an operation that takes attachments over with the message of a name. -/
def handing (name : String) : Operation → Option (SessionM Message)
  | .write (.handle h) => some (writeHandle name h)
  | .write (.port p) => some (writePort name p)
  | .attachHandles hs => some (attachHandles name hs)
  | .attachPorts ps => some (attachPorts name ps)
  | _ => none

/-- A session that is as it was before, except that it has closed something. -/
structure Spends (s : Session) (closed : Released) (t : Session) : Prop where
  messages : ∀ name, t.messages.get? name = s.messages.get? name
  others : t = { s with messages := t.messages, released := s.released ++ closed }

/-- Taking a message away leaves the rest of the session as it is. -/
theorem run_takeMessage {s : Session} {name : String} {m : Message}
    (there : s.messages.get? name = some m) :
    (takeMessage name).run s = .ok m { s with messages := s.messages.remove name } := by
  have found : (message name).run s = .ok m s := by
    unfold message
    rw [EStateM.run_bind, EStateM.run_get]
    simp only [there]
    rfl
  unfold takeMessage
  rw [EStateM.run_bind, found]
  rfl

/-- What a message refuses is closed, and the message goes back to its name. -/
theorem run_handOver_of_error {s : Session} {name : String} {m n : Message} {e : MessageError}
    {closing : Released} {step : MessageM Unit} (there : s.messages.get? name = some m)
    (failed : step.run m = .error e n) :
    (handOver name closing step).run s = .error (.refused e)
      { s with
        messages := (s.messages.remove name).put name n
        released := s.released ++ closing } := by
  unfold handOver
  rw [EStateM.run_bind, run_takeMessage there]
  simp only [failed]
  rfl

/-- A message that was taken away and put back leaves nothing changed but what was closed. -/
theorem spends_of_putBack {s : Session} {name : String} {m : Message} (closed : Released)
    (there : s.messages.get? name = some m) :
    s.Spends closed
      { s with
        messages := (s.messages.remove name).put name m
        released := s.released ++ closed } := by
  refine ⟨?_, rfl⟩
  intro other
  show ((s.messages.remove name).put name m).get? other = s.messages.get? other
  rw [Registry.get?_put, Registry.get?_remove]
  by_cases same : other = name
  · rw [if_pos same, same, there]
  · rw [if_neg same, if_neg same]

/-- Handing an attachment over is an operation on a message, and closes what is refused. -/
theorem handing_eq {name : String} {op : Operation} {work : SessionM Message}
    (hands : handing name op = some work) :
    ∃ step : MessageM Unit, work = handOver name (closeAll op.taken) step ∧
      ∀ m, op.answer m = .ofStep (fun _ => .done) (step.run m) ∧
        (op.run m).2 = leaving (step.run m) := by
  have single (a : Attachment) : closeAll [a] = a.close := Released.append_empty _
  cases op with
  | write f =>
    cases f with
    | handle h =>
      obtain rfl := Option.some.inj hands
      refine ⟨Message.writeHandle h, ?_, fun m => ⟨rfl, rfl⟩⟩
      exact congrArg (handOver name · _) (single (.handle h)).symm
    | port p =>
      obtain rfl := Option.some.inj hands
      refine ⟨Message.writePort p, ?_, fun m => ⟨rfl, rfl⟩⟩
      exact congrArg (handOver name · _) (single (.port p)).symm
    | _ => contradiction
  | attachHandles hs =>
    obtain rfl := Option.some.inj hands
    refine ⟨Message.attachHandles hs, ?_, fun m => ⟨rfl, rfl⟩⟩
    refine congrArg (handOver name · _) ?_
    show _ = Released.gather ((hs.map Attachment.handle).map Attachment.close)
    rw [List.map_map]
    rfl
  | attachPorts ps =>
    obtain rfl := Option.some.inj hands
    refine ⟨Message.attachPorts ps, ?_, fun m => ⟨rfl, rfl⟩⟩
    refine congrArg (handOver name · _) ?_
    show _ = Released.gather ((ps.map Attachment.port).map Attachment.close)
    rw [List.map_map]
    rfl
  | _ => contradiction

/-- What is handed over to a message that objects is closed, and nothing else happens in the
session. -/
theorem run_handing_of_objection {s : Session} {name : String} {m : Message} {op : Operation}
    {work : SessionM Message} {a : Answer} (there : s.messages.get? name = some m)
    (hands : handing name op = some work) (objects : op.objection m = some a) :
    ∃ e t, a = .refused e ∧ work.run s = .error (.refused e) t ∧ s.Spends (op.released m) t := by
  obtain ⟨step, rfl, same⟩ := handing_eq hands
  obtain ⟨answer, left⟩ := same m
  have kept := Message.run_of_objection objects
  rw [Message.released_of_objection objects]
  obtain ⟨rfl, objecting⟩ := Message.objection_iff.1 objects
  rw [answer] at objecting
  cases failed : step.run m with
  | ok u n =>
    rw [failed] at objecting
    contradiction
  | error e n =>
    rw [failed] at answer left
    rw [kept] at left
    obtain rfl : m = n := left
    exact ⟨e, _, answer, run_handOver_of_error there failed, spends_of_putBack _ there⟩

end Session

namespace Message

/-- Let any operations be done with any message. Then it objects to another one exactly as
`Operation.objection` says, it is left as it was, and what it was given is closed, which is all that
happens in a session. Of the operations that were done before, those to which the message objected
may be left out: it is the same without them, and all others got the same answers. -/
theorem objection_without_trace (m : Message) (ops : List Operation) :
    let n := m.after ops
    (∀ (op : Operation) (a : Answer),
        op.objection n = some a ↔ op.answer n = a ∧ a.isObjection = true) ∧
      (∀ (op : Operation) (a : Answer), op.objection n = some a →
        (op.run n).2 = n ∧ op.released n = closeAll op.taken ∧ (op.released n).Settles op.taken ∧
          ∀ (s : Session) (name : String) (work : SessionM Message), s.messages.get? name = some n →
            Session.handing name op = some work →
            ∃ e t, a = .refused e ∧ work.run s = .error (.refused e) t ∧
              s.Spends (op.released n) t) ∧
      m.after (m.kept ops) = n ∧
      m.answers (m.kept ops) = (m.answers ops).filter fun a => !a.isObjection := by
  intro n
  obtain ⟨after, answers⟩ := m.kept_same ops
  refine ⟨fun op a => objection_iff, ?_, after, answers⟩
  intro op a objects
  have closed := released_of_objection objects
  refine ⟨run_of_objection objects, closed, ?_, ?_⟩
  · rw [closed]
    exact settles_closeAll op.taken
  · intro s name work there hands
    exact Session.run_handing_of_objection there hands objects

/-- The only handle of a message is moved out, and then another one arrives. -/
def belated : List Operation :=
  [.write (.handle ⟨7, true⟩), .takeHandle, .attachHandles [⟨8, true⟩]]

/-- The empty slot is enough for an objection, and its number finds nothing. Without the handle that
was refused before, the message is the same. -/
theorem objection_without_trace_belated :
    let n := (addressed 1 2 {}).after belated
    let s : Session := { messages := (∅ : Registry String Message).put "m" n }
    (∃ t, (Session.attachHandles "m" [⟨9, true⟩]).run s = .error (.refused .handlesPresent) t ∧
        s.Spends { handles := [⟨9, true⟩] } t) ∧
      Operation.answer n (.read .handle 0) = .unread (.missingHandle 0) 4 ∧
      (Operation.run n (.read .handle 0)).2 = n ∧
      (addressed 1 2 {}).after ((addressed 1 2 {}).kept belated) = n ∧
      ((addressed 1 2 {}).kept belated).length = 2 := by
  intro n s
  obtain ⟨objects, traceless, after, -⟩ := objection_without_trace (addressed 1 2 {}) belated
  have present : Operation.objection n (.attachHandles [⟨9, true⟩]) =
      some (.refused .handlesPresent) := by decide +kernel
  have missing : Operation.objection n (.read .handle 0) =
      some (.unread (.missingHandle 0) 4) := by decide +kernel
  obtain ⟨-, closed, -, session⟩ := traceless _ _ present
  obtain ⟨e, t, same, run, spends⟩ := session s "m" _ rfl rfl
  obtain rfl := Answer.refused.inj same
  rw [closed] at spends
  exact ⟨⟨t, run, spends⟩, ((objects _ _).1 missing).1, (traceless _ _ missing).1, after,
    by decide +kernel⟩

end Message
end Interprocess
