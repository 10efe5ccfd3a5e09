import Monitor8080.Proofs.Annals
import Monitor8080.Proofs.Outcomes
namespace Monitor8080

/-!
# Restoring is all or nothing

Every slot is read before anything is replaced. A slot that is empty leaves its
part alone, and one that holds something else than its part makes the whole
table malformed, wherever it stands among the others.
-/

/-- The parts of a snapshot. -/
inductive Snapshot.Part where
  | codeCursor
  | dumpCursor
  | assembleCursor
  | commandHistory
  | dialect
  | messages
  | symbols
  | bindings
  deriving Repr, DecidableEq

namespace Snapshot

/-- The cursor that a value packs in three bytes. -/
def cursorOfJson? (value : Json) : Option Location :=
  (Json.list? Json.byte? value).bind Location.ofBytes?

namespace Part

/-- The number of the slot that holds the part. -/
def number : Part → UInt8
  | .codeCursor => 0
  | .dumpCursor => 1
  | .assembleCursor => 2
  | .commandHistory => 3
  | .dialect => 4
  | .messages => 5
  | .symbols => 6
  | .bindings => 7

/-- Whether a value stands for such a part. -/
def accepts (part : Part) (value : Json) : Bool :=
  match part with
  | .codeCursor | .dumpCursor | .assembleCursor => (cursorOfJson? value).isSome
  | .commandHistory => (Json.list? Json.text? value).isSome
  | .dialect => (Dialect.ofJson? value).isSome
  | .messages => (Json.mask? value).isSome
  | .symbols => (SymbolTable.ofJson? value).isSome
  | .bindings => (bindingsOfJson? value).isSome

end Part

/-! ## Single slots -/

/-- What a slot holds, which is `none` if its value stands for nothing, and empty if there is none. -/
def content? (value? : Option Json) (decode? : Json → Option α) : Option (Option α) :=
  match value? with
  | none => some none
  | some value => (decode? value).map some

/-- A part becomes what its slot holds, and stays if the slot is empty. -/
def Replaces
    (value? : Option Json)
    (decode? : Json → Option α)
    (before after : α) : Prop :=
  match value? with
  | none => after = before
  | some value => decode? value = some after

section Slot

variable {table : SlotTable} {number : UInt8} {value? : Option Json} {decode? : Json → Option α}

theorem part_eq_ok_iff {stored? : Option α} :
    part table number decode? = .ok stored? ↔
      content? (table.get? number) decode? = some stored? := by
  unfold part content?
  cases table.get? number with
  | none =>
      simp
  | some value =>
      cases decoded : decode? value <;> simp [decoded]

theorem cursor_eq_ok_iff {stored? : Option Location} :
    cursor table number = .ok stored? ↔
      content? (table.get? number) cursorOfJson? = some stored? := by
  unfold cursor part content? cursorOfJson?
  cases table.get? number with
  | none =>
      simp [bind, Except.bind, pure, Except.pure]
  | some value =>
      cases decoded : Json.list? Json.byte? value with
      | none =>
          simp [decoded, bind, Except.bind]
      | some bytes =>
          cases unpacked : Location.ofBytes? bytes with
          | none =>
              simp [decoded, unpacked, bind, Except.bind, throw, throwThe, MonadExceptOf.throw]
          | some location =>
              simp [decoded, unpacked, bind, Except.bind, pure, Except.pure]

/-- A slot holds something, or nothing at all, unless its value stands for nothing. -/
theorem content?_isSome_iff :
    (content? value? decode?).isSome ↔ ∀ value, value? = some value → (decode? value).isSome := by
  cases value? with
  | none =>
      simp [content?]
  | some value =>
      simp [content?]

/-- Whatever is made of what a slot holds replaces what the part was. -/
theorem replaces_map_of_content?
    {stored? : Option α}
    (holds : content? value? decode? = some stored?)
    (change : α → β)
    (before : β) :
    Replaces value? (fun value => (decode? value).map change) before
      ((stored?.map change).getD before) := by
  cases value? with
  | none =>
      cases holds
      rfl
  | some value =>
      obtain ⟨stored, decoded, rfl⟩ := Option.map_eq_some_iff.mp holds
      simp [Replaces, decoded]

/-- What a slot holds replaces its part. -/
theorem replaces_of_content?
    {stored? : Option α}
    (holds : content? value? decode? = some stored?)
    (before : α) :
    Replaces value? decode? before (stored?.getD before) := by
  simpa using replaces_map_of_content? holds id before

end Slot

theorem part_congr
    {table other : SlotTable}
    (number : UInt8)
    (decode? : Json → Option α)
    (same : other.get? number = table.get? number) :
    part other number decode? = part table number decode? := by
  unfold part
  rw [same]

theorem cursor_congr
    {table other : SlotTable}
    (number : UInt8)
    (same : other.get? number = table.get? number) :
    cursor other number = cursor table number := by
  unfold cursor
  rw [part_congr number _ same]

/-! ## All slots -/

/-- A snapshot has the parts that the slots of a table hold. -/
structure IsHeldBy (snapshot : Snapshot) (table : SlotTable) : Prop where
  codeCursor : content? (table.get? 0) cursorOfJson? = some snapshot.codeCursor?
  dumpCursor : content? (table.get? 1) cursorOfJson? = some snapshot.dumpCursor?
  assembleCursor : content? (table.get? 2) cursorOfJson? = some snapshot.assembleCursor?
  commandHistory :
    content? (table.get? 3) (Json.list? Json.text?) = some snapshot.commandHistory?
  dialect : content? (table.get? 4) Dialect.ofJson? = some snapshot.dialect?
  messages : content? (table.get? 5) Json.mask? = some snapshot.messages?
  symbols : content? (table.get? 6) SymbolTable.ofJson? = some snapshot.symbols?
  bindings : content? (table.get? 7) bindingsOfJson? = some snapshot.bindings?

/-- The snapshot that slots store is the one with the parts that they hold. -/
theorem ofSlots_eq_ok_iff {table : SlotTable} {snapshot : Snapshot} :
    ofSlots table = .ok snapshot ↔ snapshot.IsHeldBy table := by
  unfold ofSlots
  simp only [bind_eq_ok_iff, cursor_eq_ok_iff, part_eq_ok_iff]
  constructor
  · rintro ⟨_, codeCursor, _, dumpCursor, _, assembleCursor, _, commandHistory, _, dialect,
      _, messages, _, symbols, _, bindings, ⟨⟩⟩
    exact
      ⟨codeCursor, dumpCursor, assembleCursor, commandHistory, dialect, messages, symbols,
        bindings⟩
  · intro held
    exact
      ⟨_, held.codeCursor, _, held.dumpCursor, _, held.assembleCursor, _, held.commandHistory,
        _, held.dialect, _, held.messages, _, held.symbols, _, held.bindings, rfl⟩

/-- Slots of other numbers make no difference. -/
theorem ofSlots_congr
    {table other : SlotTable}
    (same : ∀ part, other.get? (Part.number part) = table.get? part.number) :
    ofSlots other = ofSlots table := by
  unfold ofSlots
  rw [cursor_congr 0 (same .codeCursor), cursor_congr 1 (same .dumpCursor),
    cursor_congr 2 (same .assembleCursor), part_congr 3 _ (same .commandHistory),
    part_congr 4 _ (same .dialect), part_congr 5 _ (same .messages),
    part_congr 6 _ (same .symbols), part_congr 7 _ (same .bindings)]

end Snapshot

/-- Some slot holds a value that its part does not accept. -/
def SlotTable.IsMalformed (table : SlotTable) : Prop :=
  ∃ part value, table.get? (Snapshot.Part.number part) = some value ∧ part.accepts value = false

/-- Whatever a slot holds is accepted if the part can be read off the slot. -/
theorem Snapshot.IsHeldBy.accepts
    {snapshot : Snapshot}
    {table : SlotTable}
    (held : snapshot.IsHeldBy table)
    {part : Part}
    {value : Json}
    (present : table.get? part.number = some value) :
    part.accepts value := by
  have accepted :
      ∀ {α : Type} {decode? : Json → Option α} {stored? : Option α},
        content? (table.get? part.number) decode? = some stored? → (decode? value).isSome :=
    fun holds => content?_isSome_iff.mp (Option.isSome_of_eq_some holds) value present
  cases part with
  | codeCursor =>
      exact accepted held.codeCursor
  | dumpCursor =>
      exact accepted held.dumpCursor
  | assembleCursor =>
      exact accepted held.assembleCursor
  | commandHistory =>
      exact accepted held.commandHistory
  | dialect =>
      exact accepted held.dialect
  | messages =>
      exact accepted held.messages
  | symbols =>
      exact accepted held.symbols
  | bindings =>
      exact accepted held.bindings

/-- A table that is not malformed stores a snapshot. -/
theorem SlotTable.exists_isHeldBy
    {table : SlotTable}
    (wellFormed : ¬ table.IsMalformed) :
    ∃ snapshot : Snapshot, snapshot.IsHeldBy table := by
  have accepted :
      ∀ (part : Snapshot.Part) (value : Json),
        table.get? part.number = some value → part.accepts value := by
    intro part value present
    cases accepts : part.accepts value with
    | true =>
        rfl
    | false =>
        exact absurd ⟨part, value, present, accepts⟩ wellFormed
  have holds :
      ∀ {α : Type} {decode? : Json → Option α} (part : Snapshot.Part),
        (∀ value, part.accepts value → (decode? value).isSome) →
          ∃ stored?, Snapshot.content? (table.get? part.number) decode? = some stored? :=
    fun part decodes =>
      Option.isSome_iff_exists.mp <|
        Snapshot.content?_isSome_iff.mpr fun value present =>
          decodes value (accepted part value present)
  obtain ⟨codeCursor?, codeCursor⟩ := holds .codeCursor fun _ => id
  obtain ⟨dumpCursor?, dumpCursor⟩ := holds .dumpCursor fun _ => id
  obtain ⟨assembleCursor?, assembleCursor⟩ := holds .assembleCursor fun _ => id
  obtain ⟨commandHistory?, commandHistory⟩ := holds .commandHistory fun _ => id
  obtain ⟨dialect?, dialect⟩ := holds .dialect fun _ => id
  obtain ⟨messages?, messages⟩ := holds .messages fun _ => id
  obtain ⟨symbols?, symbols⟩ := holds .symbols fun _ => id
  obtain ⟨bindings?, bindings⟩ := holds .bindings fun _ => id
  exact
    ⟨⟨codeCursor?, dumpCursor?, assembleCursor?, commandHistory?, dialect?, messages?, symbols?,
        bindings?⟩,
      ⟨codeCursor, dumpCursor, assembleCursor, commandHistory, dialect, messages, symbols,
        bindings⟩⟩

namespace Monitor

open Snapshot (Replaces)

/--
What a monitor is restored to: each part that a slot holds is replaced by it,
and everything else stays, the parts of empty slots among it.
-/
structure IsRestoredTo
    (before : Monitor)
    (table : SlotTable)
    (after : Monitor) : Prop where
  codeCursor :
    Replaces (table.get? 0) Snapshot.cursorOfJson? before.codeCursor after.codeCursor
  dumpCursor :
    Replaces (table.get? 1) Snapshot.cursorOfJson? before.dumpCursor after.dumpCursor
  assembleCursor :
    Replaces (table.get? 2) Snapshot.cursorOfJson? before.assembleCursor after.assembleCursor
  commandHistory :
    Replaces (table.get? 3)
      (fun value =>
        (Json.list? Json.text? value).map (·.take before.config.commandHistoryLength))
      before.commandHistory after.commandHistory
  dialect : Replaces (table.get? 4) Dialect.ofJson? before.dialect after.dialect
  messages : Replaces (table.get? 5) Json.mask? before.sentry.messages after.sentry.messages
  symbols : Replaces (table.get? 6) SymbolTable.ofJson? before.symbols after.symbols
  bindings : Replaces (table.get? 7) Snapshot.bindingsOfJson? before.bindings after.bindings
  others :
    after =
      { before with
        codeCursor := after.codeCursor
        dumpCursor := after.dumpCursor
        assembleCursor := after.assembleCursor
        commandHistory := after.commandHistory
        dialect := after.dialect
        sentry := { before.sentry with messages := after.sentry.messages }
        symbols := after.symbols
        bindings := after.bindings }

/-- The parts of a snapshot that a table holds are what the monitor is restored to. -/
theorem isRestoredTo_withSnapshot
    {snapshot : Snapshot}
    {table : SlotTable}
    (held : snapshot.IsHeldBy table)
    (monitor : Monitor) :
    monitor.IsRestoredTo table (monitor.withSnapshot snapshot) where
  codeCursor := Snapshot.replaces_of_content? held.codeCursor _
  dumpCursor := Snapshot.replaces_of_content? held.dumpCursor _
  assembleCursor := Snapshot.replaces_of_content? held.assembleCursor _
  commandHistory := by
    have cut :
        (monitor.withSnapshot snapshot).commandHistory =
          (snapshot.commandHistory?.map (·.take monitor.config.commandHistoryLength)).getD
            monitor.commandHistory := by
      unfold withSnapshot
      cases snapshot.commandHistory? <;> rfl
    rw [cut]
    exact Snapshot.replaces_map_of_content? held.commandHistory _ _
  dialect := Snapshot.replaces_of_content? held.dialect _
  messages := Snapshot.replaces_of_content? held.messages _
  symbols := Snapshot.replaces_of_content? held.symbols _
  bindings := Snapshot.replaces_of_content? held.bindings _
  others := rfl

theorem restore_eq_ok_iff {monitor restored : Monitor} {table : SlotTable} :
    monitor.restore table = .ok restored ↔
      ∃ snapshot : Snapshot, snapshot.IsHeldBy table ∧ monitor.withSnapshot snapshot = restored := by
  unfold restore
  simp only [bind_eq_ok_iff, Snapshot.ofSlots_eq_ok_iff, pure, Except.pure, Except.ok.injEq]

end Monitor

/--
A malformed table restores nothing, and any other one replaces exactly the
parts whose slots are not empty. Slots of other numbers make no difference.
-/
theorem restoring_is_all_or_nothing
    (session : Session)
    (table : SlotTable) :
    (table.IsMalformed →
        (∃ error, session.monitor.restore table = .error error) ∧
          session.deal (.restore table) = session) ∧
      (¬ table.IsMalformed →
        ∃ restored,
          session.monitor.restore table = .ok restored ∧
            session.monitor.IsRestoredTo table restored ∧
            session.deal (.restore table) = ⟨restored, session.machine⟩) ∧
      ∀ other : SlotTable,
        (∀ part, other.get? (Snapshot.Part.number part) = table.get? part.number) →
          session.monitor.restore other = session.monitor.restore table := by
  refine ⟨fun malformed => ?_, fun wellFormed => ?_, fun other same => ?_⟩
  · cases came : session.monitor.restore table with
    | error error =>
        exact ⟨⟨error, rfl⟩, by simp only [Session.deal, came]⟩
    | ok restored =>
        obtain ⟨part, value, present, refused⟩ := malformed
        obtain ⟨snapshot, held, -⟩ := Monitor.restore_eq_ok_iff.mp came
        rw [held.accepts present] at refused
        cases refused
  · obtain ⟨snapshot, held⟩ := SlotTable.exists_isHeldBy wellFormed
    have came : session.monitor.restore table = .ok (session.monitor.withSnapshot snapshot) :=
      Monitor.restore_eq_ok_iff.mpr ⟨snapshot, held, rfl⟩
    exact
      ⟨_, came, session.monitor.isRestoredTo_withSnapshot held, by simp only [Session.deal, came]⟩
  · unfold Monitor.restore
    rw [Snapshot.ofSlots_congr same]

/-- A cursor of two bytes in a slot keeps the mask in another one from being restored. -/
theorem cursor_of_two_bytes_restores_nothing :
    let session := Session.fresh .default .initial
    let good : SlotTable := ⟨[(5, .int 3), (200, .null)]⟩
    let bad : SlotTable := ⟨[(1, .array [.int 1, .int 2]), (5, .int 3)]⟩
    (¬ good.IsMalformed ∧ (session.deal (.restore good)).monitor.sentry.messages = 3) ∧
      bad.IsMalformed ∧ session.deal (.restore bad) = session := by
  intro session good bad
  have wellFormed : ¬ good.IsMalformed := by
    rintro ⟨part, value, present, refused⟩
    cases part <;> cases present
    cases refused
  have malformed : bad.IsMalformed :=
    ⟨.dumpCursor, .array [.int 1, .int 2], rfl, rfl⟩
  obtain ⟨restored, -, isRestored, dealt⟩ :=
    (restoring_is_all_or_nothing session good).2.1 wellFormed
  refine ⟨⟨wellFormed, ?_⟩, malformed, ?_⟩
  · rw [dealt]
    exact Option.some.inj isRestored.messages.symm
  · exact ((restoring_is_all_or_nothing session bad).1 malformed).2

end Monitor8080
