import Interprocess.Proofs.Custody.Estate

/-!
# Every attachment has one owner

Whatever is done, and in whatever order, what has entered an estate is in exactly one place: in a
slot of a message or of a side list, in a parcel under way, in the caller's hands, or among what was
closed or given up. The run is an induction over the acts, whose step is `Estate.step_passes`; only
ports that nobody has given up lie anywhere, so closing settles all that is let go of. The main
statement is `Estate.exclusively_owned`.
-/

set_option autoImplicit false

namespace Interprocess

/-- What enters an estate with an act is owned. -/
theorem Act.owned_of_mem_brings {act : Act} {a : Attachment} (mem : a ∈ act.brings) :
    a.isOwned := by
  cases act with
  | newHandle h =>
    obtain rfl := List.mem_singleton.1 mem
    rfl
  | newPort name =>
    obtain rfl := List.mem_singleton.1 mem
    rfl
  | _ => contradiction

/-- The attachments that enter an estate with some acts. -/
def brought (acts : List Act) : List Attachment := acts.flatMap Act.brings

/-- What has entered an estate was owned when it did. -/
theorem owned_of_mem_brought {acts : List Act} {a : Attachment} (mem : a ∈ brought acts) :
    a.isOwned := by
  obtain ⟨act, -, entered⟩ := List.mem_flatMap.1 mem
  exact Act.owned_of_mem_brings entered

namespace Estate

/-- What has come of some acts. -/
def run (acts : List Act) : Estate := acts.foldl step {}

/-- The attachments that are there, were closed or were given up. -/
def everything (w : Estate) : List Attachment :=
  w.kept ++ w.closed.items ++ w.givenUp.map fun name => .port { name }

/-! ## Runs -/

/-- If all that is there is owned, passing on adds nothing to it but what is brought. -/
theorem Passes.perm_everything {w v : Estate} {as : List Attachment} (passes : w.Passes as v)
    (owned : ∀ a ∈ w.kept ++ as, a.isOwned) :
    List.Perm v.everything (w.everything ++ as) := by
  obtain ⟨released, given, closed, givenUp, gone, held, settles⟩ := passes
  have settled := settles fun a mem => owned a (held.mem_iff.2 (List.mem_append_right _ mem))
  have records := Released.items_append w.closed released
  rw [List.perm_iff_count]
  intro a
  have := held.count_eq a
  have := settled.count_eq a
  have := records.count_eq a
  simp only [everything, closed, givenUp, List.map_append, List.count_append] at *
  omega

/-- What has entered is there, was closed or was given up, each as often as it has entered. -/
theorem perm_everything_run (acts : List Act) :
    List.Perm (run acts).everything (brought acts) := by
  have kept (w : Estate) (entered : List Attachment) (acts : List Act)
      (owned : ∀ a ∈ entered ++ brought acts, a.isOwned)
      (held : List.Perm w.everything entered) :
      List.Perm (acts.foldl step w).everything (entered ++ brought acts) := by
    -- the estate changes with every act, so the induction is over all estates
    induction acts generalizing w entered with
    | nil =>
      rw [brought, List.flatMap_nil, List.append_nil]
      exact held
    | cons act acts ih =>
      have whole : entered ++ brought (act :: acts) =
          entered ++ act.brings ++ brought acts := by
        rw [brought, List.flatMap_cons, List.append_assoc]
        rfl
      rw [whole] at owned ⊢
      refine ih _ _ owned ?_
      refine ((w.step_passes act).perm_everything ?_).trans (held.append_right act.brings)
      intro a mem
      rw [List.append_assoc] at owned
      rcases List.mem_append.1 mem with old | new
      · have there : a ∈ w.everything :=
          List.mem_append_left _ (List.mem_append_left _ old)
        exact owned a (List.mem_append_left _ (held.mem_iff.1 there))
      · exact owned a (List.mem_append_right _ (List.mem_append_left _ new))
  have nothing : everything {} = [] := rfl
  exact kept {} [] acts (fun a mem => owned_of_mem_brought mem) (List.Perm.of_eq nothing)

/-- All that is there is owned. -/
theorem owned_of_mem_kept {acts : List Act} {a : Attachment} (mem : a ∈ (run acts).kept) :
    a.isOwned := by
  have there : a ∈ (run acts).everything := List.mem_append_left _ (List.mem_append_left _ mem)
  exact owned_of_mem_brought ((perm_everything_run acts).mem_iff.1 there)

end Estate

/-! ## Places -/

/-- The slots of a message or of a side list, each with what lies in it. -/
def Attachments.cells (a : Attachments) : List (List Attachment) :=
  (a.ports.toList.map fun cell => cell.toList.map .port) ++
    a.handles.toList.map fun cell => cell.toList.map .handle

/-- What lies in cells are the contents of those that are filled. -/
theorem flatten_cells {α : Type} (f : α → Attachment) (cells : List (Option α)) :
    (cells.map fun cell => cell.toList.map f).flatten = (cells.filterMap id).map f := by
  induction cells with
  | nil => rfl
  | cons cell cells ih => cases cell <;> simp [ih]

/-- What lies in the slots is what is left in them. -/
theorem Attachments.flatten_cells (a : Attachments) : a.cells.flatten = a.items := by
  rw [cells, List.flatten_append, Interprocess.flatten_cells, Interprocess.flatten_cells]
  rfl

namespace Estate

/-- The places that an attachment can be in: every slot of every message and side list, every parcel
under way, the caller's hands, and the records of what was closed and of what was given up. -/
def places (w : Estate) : List (List Attachment) :=
  w.messages.flatMap (fun m => m.attachments.cells) ++ w.sideLists.flatMap Attachments.cells ++
    (w.channels.flatMap Channel.parcels).map Parcel.items ++
    [w.hands, w.closed.items, w.givenUp.map fun name => .port { name }]

/-- All places together have everything that is there, was closed or was given up. -/
theorem flatten_places (w : Estate) : w.places.flatten = w.everything := by
  have slots {α : Type} (l : List α) (cells : α → List (List Attachment)) :
      (l.flatMap cells).flatten = l.flatMap fun x => (cells x).flatten := by
    rw [List.flatten_eq_flatMap, List.flatMap_assoc]
    simp only [List.flatMap_id]
  have parcels : ((w.channels.flatMap Channel.parcels).map Parcel.items).flatten =
      w.channels.flatMap Channel.items := by
    rw [List.flatten_eq_flatMap, List.flatMap_map, List.flatMap_assoc]
    rfl
  simp only [places, List.flatten_append, slots, parcels, Attachments.flatten_cells, everything,
    kept, List.flatten_cons, List.flatten_nil, List.append_nil, List.append_assoc]
  rfl

end Estate

/-- What occurs once in some places is in exactly one of them. -/
theorem exists_place {places : List (List Attachment)} {a : Attachment}
    (once : places.flatten.count a = 1) :
    ∃ before place after, places = before ++ place :: after ∧ place.count a = 1 ∧
      ∀ other ∈ before ++ after, a ∉ other := by
  have there : a ∈ places.flatten := List.count_pos_iff.1 (by omega)
  obtain ⟨place, mem, here⟩ := List.mem_flatten.1 there
  obtain ⟨before, after, rfl⟩ := List.append_of_mem mem
  have positive := List.count_pos_iff.2 here
  simp only [List.flatten_append, List.flatten_cons, List.count_append] at once
  refine ⟨before, place, after, rfl, by omega, ?_⟩
  intro other elsewhere inside
  have again : a ∈ (before ++ after).flatten := List.mem_flatten.2 ⟨other, elsewhere, inside⟩
  have := List.count_pos_iff.2 again
  rw [List.flatten_append, List.count_append] at this
  omega

/-! ## Closing a message -/

/-- A message whose ports are owned closes what is left, each kind in slot order. -/
theorem Message.close_eq {m : Message} (owned : ∀ a ∈ m.items, a.isOwned) :
    m.close =
      { ports := m.attachments.ports.remaining.map Port.name
        handles := m.attachments.handles.remaining } := by
  have ports : ∀ p ∈ m.attachments.ports.remaining, p.owned := by
    intro p mem
    exact owned (.port p) (List.mem_append_left _ (List.mem_map_of_mem mem))
  rw [Message.close, Attachments.close_eq, List.filter_eq_self.2 ports]

namespace Estate

/-- No port is closed or given up more often than it has entered. -/
theorem ports_le_brought (acts : List Act) (name : PortName) :
    (run acts).closed.ports.count name + (run acts).givenUp.count name ≤
      (brought acts).count (.port { name }) := by
  have entered := (perm_everything_run acts).count_eq (.port { name })
  have closed := List.count_le_count_map (l := (run acts).closed.ports)
    (f := fun name => Attachment.port { name }) (x := name)
  have givenUp := List.count_le_count_map (l := (run acts).givenUp)
    (f := fun name => Attachment.port { name }) (x := name)
  simp only [everything, Released.items, List.count_append] at entered
  omega

/-- The records of what is gone only grow. -/
theorem records_grow (w : Estate) (acts : List Act) :
    ∃ released given, (acts.foldl step w).closed = w.closed ++ released ∧
      (acts.foldl step w).givenUp = w.givenUp ++ given := by
  induction acts generalizing w with
  | nil => exact ⟨∅, [], (Released.append_empty _).symm, (List.append_nil _).symm⟩
  | cons act acts ih =>
    obtain ⟨released, given, closed, givenUp, -⟩ := w.step_passes act
    obtain ⟨more, others, closed', givenUp'⟩ := ih (w.step act)
    refine ⟨released ++ more, given ++ others, ?_, ?_⟩
    · rw [List.foldl_cons, closed', closed, Released.append_assoc]
    · rw [List.foldl_cons, givenUp', givenUp, List.append_assoc]

/-- A message that is dropped closes what is left in it, in slot order. -/
theorem closed_dropMessage {acts : List Act} {place : Nat} {m : Message}
    (here : (run acts).messages[place]? = some m) :
    ((run acts).step (.dropMessage place)).closed =
      (run acts).closed ++
        { ports := m.attachments.ports.remaining.map Port.name
          handles := m.attachments.handles.remaining } := by
  have owned : ∀ a ∈ m.items, a.isOwned := by
    intro a mem
    apply @owned_of_mem_kept acts
    have held : a ∈ (run acts).messages.flatMap Message.items :=
      List.mem_flatMap.2 ⟨m, List.mem_of_getElem? here, mem⟩
    simp only [kept, List.append_assoc]
    exact List.mem_append_left _ held
  rw [← Message.close_eq owned]
  simp only [step, here]

/-- Whatever is done with messages, side lists, channels and attachments, and in whatever order:
what has entered is at any time in the places that there are, as often as it has entered, and so in
exactly one place if it has entered once. No port is closed more often than it has entered, counting
the times it was given up, and what was closed or given up stays so. A message that is dropped
closes exactly what is left in it, in slot order. -/
theorem exclusively_owned (acts : List Act) :
    let w := run acts
    List.Perm w.places.flatten (brought acts) ∧
    (∀ a, (brought acts).count a = 1 →
      ∃ before place after, w.places = before ++ place :: after ∧ place.count a = 1 ∧
        ∀ other ∈ before ++ after, a ∉ other) ∧
    (∀ name, w.closed.ports.count name + w.givenUp.count name ≤
      (brought acts).count (.port { name })) ∧
    (∀ later, w.closed.ports <+: (run (acts ++ later)).closed.ports ∧
      w.closed.handles <+: (run (acts ++ later)).closed.handles ∧
      w.givenUp <+: (run (acts ++ later)).givenUp) ∧
    (∀ place m, w.messages[place]? = some m →
      (w.step (.dropMessage place)).closed.ports =
          w.closed.ports ++ m.attachments.ports.remaining.map Port.name ∧
        (w.step (.dropMessage place)).closed.handles =
          w.closed.handles ++ m.attachments.handles.remaining) := by
  intro w
  have entered : List.Perm w.places.flatten (brought acts) := by
    rw [flatten_places]
    exact perm_everything_run acts
  refine ⟨entered, ?_, ports_le_brought acts, ?_, ?_⟩
  · intro a once
    apply exists_place
    rw [entered.count_eq a, once]
  · intro later
    obtain ⟨released, given, closed, givenUp⟩ := records_grow w later
    have whole : run (acts ++ later) = later.foldl step w := List.foldl_append
    rw [whole, closed, givenUp]
    exact ⟨List.prefix_append _ _, List.prefix_append _ _, List.prefix_append _ _⟩
  · intro place m here
    rw [closed_dropMessage here]
    exact ⟨rfl, rfl⟩

/-- Two ports and a handle are sent, and the first port is taken out and given up. -/
def passedOn : List Act :=
  [.newPort ⟨1, 1⟩, .newPort ⟨2, 2⟩, .newHandle ⟨7, true⟩, .make (.addressed 1 2 {}),
    .operate 0 (.write (.port ⟨⟨1, 1⟩, true⟩)), .operate 0 (.write (.handle ⟨7, true⟩)),
    .operate 0 (.write (.port ⟨⟨2, 2⟩, true⟩)), .connect {}, .start 0 .b, .send 0 .a 0, .poll 0 .b,
    .operate 0 (.read .port 0), .giveUp ⟨1, 1⟩]

/-- The second port is still in one slot, and it is the only one that is closed with the message. -/
theorem exclusively_owned_passed_on :
    let w := run passedOn
    w.givenUp = [⟨1, 1⟩] ∧
      (∃ before place after, w.places = before ++ place :: after ∧
        place.count (.port ⟨⟨2, 2⟩, true⟩) = 1 ∧
        ∀ other ∈ before ++ after, .port ⟨⟨2, 2⟩, true⟩ ∉ other) ∧
      (w.step (.dropMessage 0)).closed.ports = [⟨2, 2⟩] := by
  obtain ⟨-, once, -, -, dropped⟩ := exclusively_owned passedOn
  refine ⟨by decide +kernel, once _ (by decide +kernel), ?_⟩
  have here : (run passedOn).messages[0]? =
      some ((run passedOn).messages[0]?.getD default) := by decide +kernel
  rw [(dropped 0 _ here).1]
  decide +kernel

end Estate

end Interprocess
