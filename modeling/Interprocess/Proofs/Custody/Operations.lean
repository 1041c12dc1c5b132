import Interprocess.Proofs.Custody.Holdings
import Interprocess.Proofs.Message.Counted
import Interprocess.Proofs.Message.Fields

/-!
# What operations do with attachments

An operation on a message may take attachments over from its caller, move some out of the message,
or detach both rows of slots as a side list. If it takes some over and is refused, they are closed.
The main statement is `Message.Operation.accounts`: whatever the operation, the message and the
payload, what the message and the caller had is afterwards in the message, with the caller, in the
side list, or was closed.
-/

set_option autoImplicit false

namespace Interprocess

/-- What a field attaches. -/
def Field.attachments (f : Field) : List Attachment :=
  f.handles.map .handle ++ f.ports.map .port

namespace Message

/-- What comes of a read: something only if it succeeds. -/
def yields {α : Type} (of : α → List Attachment) :
    EStateM.Result ReadError Reader α → List Attachment
  | .ok a _ => of a
  | .error _ _ => []

namespace Operation

/-- What the caller gives away with an operation. -/
def taken : Operation → List Attachment
  | write f => f.attachments
  | attachHandles hs => hs.map .handle
  | attachPorts ps => ps.map .port
  | _ => []

/-- What an operation hands to the caller. -/
def handed (m : Message) : Operation → List Attachment
  | read kind place => yields Field.attachments (kind.read.run { message := m, place })
  | takeHandle => m.takeHandle.1.toList.map .handle
  | takePort => m.takePort.1.toList.map .port
  | _ => []

/-- The side list that an operation moves out of a message whole. -/
def detached (m : Message) : Operation → List Attachments
  | takeAttachments => [m.takeAttachments.1]
  | _ => []

/-- What is let go of by an operation: if it is refused, what the caller gave away. -/
def released (m : Message) (op : Operation) : Released :=
  if (op.run m).1.isSome then closeAll op.taken else ∅

end Operation

/-! ## Writing -/

/-- A step that takes some attachments over if it succeeds, and none if it is refused. -/
def Takes {α : Type} (step : MessageM α) (as : List Attachment) : Prop :=
  ∀ m : Message, (∃ a n, step.run m = .ok a n ∧ List.Perm n.items (m.items ++ as)) ∨
    (∃ e n, step.run m = .error e n ∧ n.items = m.items)

/-- What a step is given is in the message afterwards or was closed. -/
theorem Takes.accounts {α : Type} {step : MessageM α} {as : List Attachment} (takes : Takes step as)
    (m : Message) :
    Accounts (m.items ++ as) (leaving (step.run m)).items
      (if (refusal (step.run m)).isSome then closeAll as else ∅) := by
  rcases takes m with ⟨a, n, run, held⟩ | ⟨e, n, run, same⟩
  · rw [run]
    exact Accounts.moved held.symm
  · rw [run]
    refine ⟨as, ?_, settles_closeAll as⟩
    rw [leaving, same]

/-- A step that does not touch the slots. -/
def KeepsSlots {α : Type} (step : MessageM α) : Prop :=
  ∀ m : Message, (leaving (step.run m)).attachments = m.attachments

/-- A step that only writes bytes does not touch the slots. -/
theorem WritesOnly.keepsSlots {α : Type} {step : MessageM α} (writes : WritesOnly step) :
    KeepsSlots step := by
  intro m
  exact (writes m).1

/-- A step that does not touch the slots leaves what is in them. -/
theorem KeepsSlots.items {α : Type} {step : MessageM α} (keeps : KeepsSlots step) (m : Message) :
    (leaving (step.run m)).items = m.items := congrArg Attachments.items (keeps m)

/-- A step that does not touch the slots takes nothing over. -/
theorem KeepsSlots.takes {α : Type} {step : MessageM α} (keeps : KeepsSlots step) : Takes step [] := by
  intro m
  have same := keeps.items m
  cases result : step.run m with
  | ok a n =>
    rw [result] at same
    exact Or.inl ⟨a, n, rfl, by rw [List.append_nil, ← same]; rfl⟩
  | error e n =>
    rw [result] at same
    exact Or.inr ⟨e, n, rfl, same⟩

/-- Writing a handle takes it over. -/
theorem takes_writeHandle (h : Handle) : Takes (writeHandle h) [.handle h] := by
  intro m
  rw [run_writeHandle]
  by_cases full : m.handleSlots ≥ descriptorLimit
  · exact Or.inr ⟨_, _, if_pos full, rfl⟩
  simp only [if_neg full]
  split
  · refine Or.inl ⟨_, _, rfl, ?_⟩
    show List.Perm ({ m.attachments with handles := m.attachments.handles.push h }).items _
    simp [items, Attachments.items]
  · exact Or.inr ⟨_, _, rfl, rfl⟩

/-- Writing a port takes it over. -/
theorem takes_writePort (p : Port) : Takes (writePort p) [.port p] := by
  intro m
  rw [run_writePort]
  by_cases below : m.portSlots < wordLimit
  · simp only [if_pos below]
    split
    · refine Or.inl ⟨_, _, rfl, ?_⟩
      show List.Perm ({ m.attachments with ports := m.attachments.ports.push p }).items _
      rw [List.perm_iff_count]
      intro a
      simp only [items, Attachments.items, Slots.remaining_push, List.map_append, List.map_cons,
        List.map_nil, List.count_append]
      omega
    · exact Or.inr ⟨_, _, rfl, rfl⟩
  · exact Or.inr ⟨_, _, if_neg below, rfl⟩

/-- Writing a field takes over what it attaches. -/
theorem takes_write (f : Field) : Takes f.write f.attachments := by
  cases f with
  | u32 | i32 | u64 | i64 | bool | bytes => exact (writesOnly_writeAligned _).keepsSlots.takes
  | data | text => exact (writesOnly_writeData _).keepsSlots.takes
  | handle h => exact takes_writeHandle h
  | port p => exact takes_writePort p

/-- Rows of handles are taken over only by a message without slots for handles, so none is lost. -/
theorem takes_attachHandles (hs : List Handle) : Takes (attachHandles hs) (hs.map .handle) := by
  intro m
  rw [run_attachHandles]
  by_cases present : !m.attachments.handles.isEmpty
  · exact Or.inr ⟨_, _, if_pos present, rfl⟩
  rw [if_neg present]
  split
  · exact Or.inr ⟨_, _, rfl, rfl⟩
  · refine Or.inl ⟨_, _, rfl, ?_⟩
    have none := Slots.remaining_of_isEmpty (by simpa using present)
    simp [items, Attachments.items, withHandles, none]

/-- Ports that arrived are taken over all together. -/
theorem takes_attachPorts (ps : List Port) : Takes (attachPorts ps) (ps.map .port) := by
  intro m
  rw [run_attachPorts]
  by_cases present : !m.attachments.ports.isEmpty
  · exact Or.inr ⟨_, _, if_pos present, rfl⟩
  · refine Or.inl ⟨_, _, if_neg present, ?_⟩
    have none := Slots.remaining_of_isEmpty (by simpa using present)
    simp only [items, Attachments.items, withPorts, none, Slots.remaining_ofList, List.map_nil,
      List.nil_append]
    exact List.perm_append_comm

/-! ## Reading -/

/-- A read that moves out of the message what its result yields, and nothing else. -/
def Moves {α : Type} (step : ReadM α) (of : α → List Attachment) : Prop :=
  ∀ r : Reader, List.Perm r.message.items
    ((leaving (step.run r)).message.items ++ yields of (step.run r))

section

variable {α β : Type} {of : α → List Attachment}

/-- A read that fails at once moves nothing out. -/
theorem moves_throw (e : ReadError) : Moves (throw e : ReadM α) of := by
  intro r
  show List.Perm _ (r.message.items ++ [])
  rw [List.append_nil]

/-- Behind a read that moves nothing out, the next one says what is moved out. -/
theorem moves_bind {step : ReadM β} {next : β → ReadM α} (first : Moves step fun _ => [])
    (second : ∀ b, Moves (next b) of) : Moves (step >>= next) of := by
  intro r
  have moved := first r
  rw [EStateM.run_bind]
  cases result : step.run r with
  | ok b s =>
    rw [result, yields, List.append_nil] at moved
    exact moved.trans (second b s)
  | error e s =>
    rw [result] at moved
    exact moved

/-- Giving a result another form does not change what is moved out. -/
theorem moves_map {step : ReadM β} {g : β → α} {inner : β → List Attachment}
    (moves : Moves step inner) (same : ∀ b, of (g b) = inner b) :
    Moves (do return g (← step)) of := by
  intro r
  have moved := moves r
  rw [EStateM.run_bind]
  cases result : step.run r with
  | ok b s =>
    rw [result, yields, ← same] at moved
    exact moved
  | error e s =>
    rw [result] at moved
    exact moved

end

/-- A read that leaves the message as it is hands no attachment out. -/
theorem Untouched.moves {α : Type} {step : ReadM α} (untouched : Untouched step) :
    Moves step fun _ => [] := by
  intro r
  rw [untouched r]
  cases step.run r with
  | ok | error => exact List.Perm.of_eq (List.append_nil _).symm

/-- Whatever number the payload gives, what lies in the slot of that number comes out or stays. -/
theorem moves_consume {α : Type} (row : Row α) : Moves row.consume fun a => [row.attachment a] := by
  refine moves_bind untouched_readU32.moves fun index r => ?_
  have moved := (row.slots r.message).perm_takeAt index.toNat
  rw [EStateM.run_bind, EStateM.run_get]
  cases taken : (row.slots r.message).takeAt index.toNat with
  | mk found left =>
    rw [taken] at moved
    cases found with
    | none =>
      simp only [taken]
      exact moves_throw _ r
    | some a =>
      simp only [taken]
      exact Row.perm_put moved

/-- Reading a field moves out what the field attaches. -/
theorem moves_read (kind : Field.Kind) : Moves kind.read Field.attachments := by
  cases kind with
  | u32 => exact moves_map untouched_readU32.moves fun _ => rfl
  | i32 => exact moves_map (moves_map untouched_readU32.moves fun _ => rfl) fun _ => rfl
  | u64 => exact moves_map untouched_readU64.moves fun _ => rfl
  | i64 => exact moves_map (moves_map untouched_readU64.moves fun _ => rfl) fun _ => rfl
  | bool => exact moves_map untouched_readBool.moves fun _ => rfl
  | bytes length => exact moves_map (untouched_readBytes length).moves fun _ => rfl
  | data => exact moves_map untouched_readData.moves fun _ => rfl
  | text => exact moves_map untouched_readText.moves fun _ => rfl
  | handle => exact moves_map (moves_consume .handles) fun _ => rfl
  | port => exact moves_map (moves_consume .ports) fun _ => rfl

/-- Taking the first of a row that is left moves it out, and nothing else. -/
theorem moves_take {α : Type} (row : Row α) (m : Message) :
    List.Perm m.items ((row.take m).2.items ++ (row.take m).1.toList.map row.attachment) :=
  Row.perm_put (row.slots m).perm_takeFirst

/-! ## All operations -/

namespace Operation

/-- An operation that hands nothing out accounts for what it takes over. -/
theorem accounts_of_takes {α : Type} {m : Message} {op : Operation} {step : MessageM α}
    (run : op.run m = (refusal (step.run m), leaving (step.run m))) (handed : op.handed m = [])
    (detached : op.detached m = []) (takes : Takes step op.taken) :
    Accounts (m.items ++ op.taken)
      ((op.run m).2.items ++ op.handed m ++ (op.detached m).flatMap Attachments.items)
      (op.released m) := by
  rw [released, run, handed, detached, List.flatMap_nil, List.append_nil, List.append_nil]
  exact takes.accounts m

/-- An operation that is never refused accounts for what it hands out. -/
theorem accounts_of_moves {m : Message} {op : Operation} (done : (op.run m).1 = none)
    (taken : op.taken = []) (detached : op.detached m = [])
    (moved : List.Perm m.items ((op.run m).2.items ++ op.handed m)) :
    Accounts (m.items ++ op.taken)
      ((op.run m).2.items ++ op.handed m ++ (op.detached m).flatMap Attachments.items)
      (op.released m) := by
  rw [released, done, taken, detached, List.flatMap_nil, List.append_nil, List.append_nil]
  exact Accounts.moved moved

/-- What a message and its caller had is afterwards in the message, with the caller or in a side
list, or it was closed because the operation was refused. -/
theorem accounts (m : Message) (op : Operation) :
    Accounts (m.items ++ op.taken)
      ((op.run m).2.items ++ op.handed m ++ (op.detached m).flatMap Attachments.items)
      (op.released m) := by
  have same : List.Perm m.items (m.items ++ []) := by rw [List.append_nil]
  cases op with
  | write f => exact accounts_of_takes rfl rfl rfl (takes_write f)
  | writeFooter bs => exact accounts_of_takes rfl rfl rfl (writesOnly_writeFooter bs).keepsSlots.takes
  | readFooter buffer truncate =>
    exact accounts_of_takes rfl rfl rfl (writesOnly_readFooter buffer truncate).keepsSlots.takes
  | attachHandles hs => exact accounts_of_takes rfl rfl rfl (takes_attachHandles hs)
  | attachPorts ps => exact accounts_of_takes rfl rfl rfl (takes_attachPorts ps)
  | read kind place => exact accounts_of_moves rfl rfl rfl (moves_read kind { message := m, place })
  | takeHandle => exact accounts_of_moves rfl rfl rfl (moves_take .handles m)
  | takePort => exact accounts_of_moves rfl rfl rfl (moves_take .ports m)
  | takeAttachments =>
    -- both rows of slots become the side list, and the message keeps none
    refine Accounts.moved ?_
    show List.Perm (m.items ++ []) ([] ++ [] ++ (m.attachments.items ++ []))
    exact List.Perm.refl _
  | setRelay | setRouting | setTransaction | setSeqno =>
    exact accounts_of_moves rfl rfl rfl same

end Operation

end Message

end Interprocess
