import Monitor8080.Proofs.Restoring
import Monitor8080.Proofs.StoredValues
namespace Monitor8080

/-!
# Round trips of what is stored

What a monitor remembers can be stored whatever was done with it, and another
monitor that keeps as many operator lines takes it over as it is. Only symbols
and variables need a reason for that, which is that maps stand in order and
lengths fit into 64 bits.
-/

/-! ## Cursors -/

theorem wordOfBytes_lowByte_highByte (word : UInt16) :
    wordOfBytes (lowByte word) (highByte word) = word := by
  have bound := word.toNat_lt
  have low : word.toNat % 2 ^ 8 < 2 ^ 8 := Nat.mod_lt _ (by decide)
  have joined := Nat.shiftLeft_add_eq_or_of_lt low (word.toNat / 2 ^ 8 % 2 ^ 8)
  apply UInt16.toNat_inj.mp
  simp only [wordOfBytes, lowByte, highByte, UInt16.toNat_or, UInt16.toNat_shiftLeft,
    UInt8.toNat_toUInt16, UInt16.toNat_toUInt8, UInt16.toNat_shiftRight, Nat.shiftLeft_eq,
    Nat.shiftRight_eq_div_pow] at joined ⊢
  simp at joined ⊢
  rw [Nat.mod_eq_of_lt, ← joined]
  all_goals omega

namespace Location

/-- The address, and whether it is temporary, without a script. -/
def bare (location : Location) : Location :=
  { location with script? := none, commands := [] }

/-- The two lowest bits of the third byte tell one thing each. -/
theorem marks_spec :
    ∀ isSet isTemporary : Bool,
      let marks := isSet.toUInt8 ||| (isTemporary.toUInt8 <<< 1)
      (marks &&& 1 != 0) = isSet ∧ (marks &&& 2 != 0) = isTemporary := by
  decide

/-- Three bytes pack the address of a location and whether it is temporary. -/
theorem ofBytes?_toBytes (location : Location) :
    ofBytes? location.toBytes = some location.bare := by
  obtain ⟨isSet, isTemporary⟩ := marks_spec location.isSet location.isTemporary
  simp only [toBytes, ofBytes?, isSet, isTemporary, wordOfBytes_lowByte_highByte]
  unfold bare Location.isSet
  cases location.address? <;> rfl

end Location

namespace Snapshot

theorem cursorOfJson?_cursorToJson (location : Location) :
    cursorOfJson? (cursorToJson location) = some location.bare := by
  rw [cursorOfJson?, cursorToJson, Json.list?_array fun byte _ => Json.byte?_ofNat byte]
  exact location.ofBytes?_toBytes

theorem bindingsOfJson?_bindingsToJson
    {bindings : NameMap Int64}
    (ordered : bindings.IsOrdered) :
    bindingsOfJson? (bindingsToJson bindings) = some bindings := by
  let encode : Int64 → Json := fun value => .int value.toInt
  have decodes : ∀ entry ∈ bindings, Json.int64? (encode entry.2) = some entry.2 :=
    fun entry _ => Json.int64?_int entry.2
  exact Json.ofEntries_entries?_object ordered decodes

theorem commandHistory?_array (lines : List String) :
    Json.list? Json.text? (.array (lines.map .string)) = some lines :=
  Json.list?_array fun _ _ => rfl

end Snapshot

theorem Dialect.ofJson?_name (dialect : Dialect) :
    ofJson? (.string dialect.name) = some dialect := by
  cases dialect <;> rfl

/-! ## What can be stored -/

namespace Monitor

/-- The symbols and the variables of a monitor can be stored. -/
structure HasStorableNames (monitor : Monitor) : Prop where
  symbols : monitor.symbols.IsStorable
  bindings : monitor.bindings.IsOrdered

theorem HasStorableNames.of_keepsNames
    {before after : Monitor}
    (storable : before.HasStorableNames)
    (keeps : before.KeepsNames after) :
    after.HasStorableNames :=
  ⟨keeps.symbols ▸ storable.symbols, keeps.bindings storable.bindings⟩

/-- What a monitor remembers, with its cursors bare. -/
def bareSnapshot (monitor : Monitor) : Snapshot :=
  { monitor.snapshot with
    codeCursor? := some monitor.codeCursor.bare
    dumpCursor? := some monitor.dumpCursor.bare
    assembleCursor? := some monitor.assembleCursor.bare }

/-- What is stored of a monitor is what it remembers. -/
theorem HasStorableNames.isHeldBy_saved
    {monitor : Monitor}
    (storable : monitor.HasStorableNames) :
    monitor.bareSnapshot.IsHeldBy monitor.saved where
  codeCursor := congrArg (·.map some) (Snapshot.cursorOfJson?_cursorToJson monitor.codeCursor)
  dumpCursor := congrArg (·.map some) (Snapshot.cursorOfJson?_cursorToJson monitor.dumpCursor)
  assembleCursor :=
    congrArg (·.map some) (Snapshot.cursorOfJson?_cursorToJson monitor.assembleCursor)
  commandHistory := congrArg (·.map some) (Snapshot.commandHistory?_array monitor.commandHistory)
  dialect := congrArg (·.map some) monitor.dialect.ofJson?_name
  messages := congrArg (·.map some) (Json.mask?_ofNat monitor.sentry.messages)
  symbols := congrArg (·.map some) storable.symbols.ofJson?_toJson
  bindings := congrArg (·.map some) (Snapshot.bindingsOfJson?_bindingsToJson storable.bindings)

/--
A monitor that takes over what another one remembers, while everything else
stays. Of a cursor only the address is remembered, and whether it is temporary.
-/
structure TakesOver (before source after : Monitor) : Prop where
  codeCursor : after.codeCursor = source.codeCursor.bare
  dumpCursor : after.dumpCursor = source.dumpCursor.bare
  assembleCursor : after.assembleCursor = source.assembleCursor.bare
  commandHistory : after.commandHistory = source.commandHistory
  dialect : after.dialect = source.dialect
  messages : after.sentry.messages = source.sentry.messages
  symbols : after.symbols = source.symbols
  bindings : after.bindings = source.bindings
  others :
    after =
      { before with
        codeCursor := after.codeCursor
        dumpCursor := after.dumpCursor
        assembleCursor := after.assembleCursor
        commandHistory := after.commandHistory
        dialect := after.dialect
        sentry := { before.sentry with messages := after.sentry.messages }
        symbols := after.symbols
        bindings := after.bindings }

theorem takesOver_withSnapshot
    {target source : Monitor}
    (fits : source.commandHistory.length ≤ target.config.commandHistoryLength) :
    target.TakesOver source (target.withSnapshot source.bareSnapshot) where
  codeCursor := rfl
  dumpCursor := rfl
  assembleCursor := rfl
  commandHistory := List.take_of_length_le fits
  dialect := rfl
  messages := rfl
  symbols := rfl
  bindings := rfl
  others := rfl

/-- What is stored of a monitor that takes over what another one remembers is the same. -/
theorem TakesOver.saved_eq
    {before source after : Monitor}
    (takesOver : before.TakesOver source after) :
    after.saved = source.saved := by
  unfold saved snapshot
  rw [takesOver.codeCursor, takesOver.dumpCursor, takesOver.assembleCursor,
    takesOver.commandHistory, takesOver.dialect, takesOver.messages, takesOver.symbols,
    takesOver.bindings]
  rfl

end Monitor

/-! ## Whatever was done before -/

namespace Session

theorem execute_keepsNames (session : Session) :
    session.monitor.KeepsNames session.execute.2.monitor := by
  unfold execute
  split <;> exact ⟨rfl, id⟩

theorem conclude_keepsNames
    (session : Session)
    (outcome : Except StepError Nat) :
    session.monitor.KeepsNames (session.conclude outcome).2.monitor := by
  unfold conclude
  split
  · split <;> exact ⟨rfl, id⟩
  · exact ⟨rfl, id⟩
  · exact ⟨rfl, id⟩

theorem releaseTemporary_keepsNames
    (session : Session)
    (ended : StepEnd) :
    session.monitor.KeepsNames (session.releaseTemporary ended).monitor := by
  unfold releaseTemporary
  split
  · split
    · exact .settleHistory _
    · exact .refl _
  · exact .refl _

theorem step_keepsNames (session : Session) :
    session.monitor.KeepsNames session.step.2.monitor := by
  have flushed : session.execute.2.monitor.KeepsNames session.execute.2.flush.monitor :=
    (Monitor.KeepsNames.tellNotes _).trans (.flushChecksum _ _)
  rw [step_eq]
  exact
    ((session.execute_keepsNames.trans flushed).trans (conclude_keepsNames _ _)).trans
      (releaseTemporary_keepsNames _ _)

theorem placeBreakpoint_keepsNames
    {before after : Session}
    {kind : BreakKind}
    {location : Location}
    (placed : before.placeBreakpoint kind location = .ok after) :
    before.monitor.KeepsNames after.monitor := by
  unfold placeBreakpoint at placed
  split at placed
  · cases placed
  · rename_i added _
    cases placed
    have adds : before.monitor.KeepsNames (before.monitor.withBreakpoints added) := ⟨rfl, id⟩
    simp only
    split
    · exact adds.trans ((Monitor.KeepsNames.message _ _ _).trans (.settleHistory _))
    · exact adds.trans (.settleHistory _)

instance : LawfulReports fun before _ after => before.monitor.KeepsNames after.monitor where
  refl session := .refl session.monitor
  trans := .trans
  report same := same.names

/-- A change that touches no names, after which the history is settled. -/
theorem settled_keepsNames
    {before changed : Monitor}
    (symbols : changed.symbols = before.symbols)
    (bindings : changed.bindings = before.bindings) :
    before.KeepsNames changed.settleHistory :=
  .trans ⟨symbols, fun ordered => bindings ▸ ordered⟩ (.settleHistory changed)

theorem removeTemporaryBreakpoints_keepsNames (session : Session) :
    session.monitor.KeepsNames session.removeTemporaryBreakpoints.2.monitor := by
  unfold removeTemporaryBreakpoints
  simp only
  split
  · exact .refl _
  · exact settled_keepsNames rfl rfl

theorem makes_keepsNames
    {before after : Session}
    {edit : Edit}
    (makes : before.Makes edit after) :
    before.monitor.KeepsNames after.monitor := by
  cases makes with
  | machine edit =>
      exact .refl _
  | place placed =>
      exact placeBreakpoint_keepsNames placed
  | remove address? =>
      exact settled_keepsNames rfl rfl
  | arm count =>
      exact settled_keepsNames rfl rfl
  | checksum interval =>
      exact settled_keepsNames rfl rfl

/-- Neither runs nor scripts change symbols, and they leave the variables in order. -/
theorem keepsNames_isLaw :
    Run.IsLawThroughout fun before _ after => before.monitor.KeepsNames after.monitor where
  clearError := Run.clearError_keepsNames
  enter _ := ⟨rfl, id⟩
  step := step_keepsNames
  stop session := .refl session.monitor
  removeTemporary := removeTemporaryBreakpoints_keepsNames
  mute _ := ⟨rfl, id⟩
  unmute _ := ⟨rfl, id⟩
  resume _ := ⟨rfl, id⟩
  edit _ _ _ := makes_keepsNames

/-- Whatever is restored can be stored again. -/
theorem restore_hasStorableNames
    {before restored : Monitor}
    {table : SlotTable}
    (storable : before.HasStorableNames)
    (came : before.restore table = .ok restored) :
    restored.HasStorableNames := by
  obtain ⟨snapshot, held, rfl⟩ := Monitor.restore_eq_ok_iff.mp came
  have isRestored := before.isRestoredTo_withSnapshot held
  constructor
  · have replaces := isRestored.symbols
    unfold Snapshot.Replaces at replaces
    split at replaces
    · rw [replaces]
      exact storable.symbols
    · exact SymbolTable.isStorable_of_ofJson? replaces
  · have replaces := isRestored.bindings
    unfold Snapshot.Replaces at replaces
    split at replaces
    · rw [replaces]
      exact storable.bindings
    · obtain ⟨entries, -, ordered⟩ := Option.map_eq_some_iff.mp replaces
      rw [← ordered]
      exact NameMap.isOrdered_ofEntries entries

/-- Whatever a host does, names stay storable if the symbols it sets are. -/
theorem deal_hasStorableNames
    {session : Session}
    (storable : session.monitor.HasStorableNames)
    {dealing : Dealing}
    (setsStorable : ∀ symbols, dealing = .setSymbols symbols → symbols.IsStorable) :
    (session.deal dealing).monitor.HasStorableNames := by
  have kept : ∀ {after : Monitor}, session.monitor.KeepsNames after → after.HasStorableNames :=
    storable.of_keepsNames
  cases dealing with
  | call call =>
      exact kept (keepsNames_isLaw.holds_of_answer session call)
  | arm count =>
      exact kept (settled_keepsNames rfl rfl)
  | restartChecksum interval =>
      exact kept (settled_keepsNames rfl rfl)
  | settleHistory =>
      exact kept (.settleHistory _)
  | print line =>
      exact kept ⟨rfl, id⟩
  | message topic text =>
      exact kept (.message _ topic text)
  | drain =>
      exact kept ⟨rfl, id⟩
  | switchTopic topic isWanted =>
      exact kept ⟨rfl, id⟩
  | editByte address value =>
      unfold deal editByte
      exact kept (.message _ _ _)
  | editWord address value =>
      unfold deal editWord
      exact kept (.message _ _ _)
  | restore table =>
      cases came : session.monitor.restore table with
      | ok restored =>
          simp only [deal, came]
          exact restore_hasStorableNames storable came
      | error error =>
          simp only [deal, came]
          exact storable
  | setSymbols symbols =>
      exact ⟨setsStorable symbols rfl, storable.bindings⟩
  | noticePower isOn =>
      have told := SameDuty.message session .cpu (if isOn then "power on" else "power off")
      cases isOn with
      | true =>
          exact kept (told.trans (.pointAtPC _)).names
      | false =>
          exact kept told.names
  | noticeReset =>
      have cleared :
          session.monitor.KeepsNames
            { session.monitor with
              sentry :=
                { session.monitor.sentry with history := session.monitor.sentry.history.clear }
              dumpCursor := .unset
              codeCursor := .ofAddress session.pc } :=
        ⟨rfl, id⟩
      exact kept (cleared.trans (.message _ _ _))
  | noticeStop =>
      exact kept (SameDuty.noticeStop session).names
  | noticeInterrupt vector =>
      unfold deal noticeInterrupt
      exact kept (.message _ _ _)
  | machine change =>
      exact kept (.refl _)

/--
A session that comes of what hosts do with a new one, its settings included.
The symbols they set may be any that can be stored, as all are that are read or
put together from modules whose lengths fit into 64 bits.
-/
inductive Arises : Session → Prop where
  | fresh (config : Config) (machine : Machine) : Arises (fresh config machine)
  | deal
      {session : Session}
      (earlier : Arises session)
      (dealing : Dealing)
      (setsStorable : ∀ symbols, dealing = .setSymbols symbols → symbols.IsStorable) :
      Arises (session.deal dealing)
  | configure
      {session : Session}
      (earlier : Arises session)
      (config : Config) :
      Arises (session.updateMonitor ({ · with config := config }))

theorem Arises.hasStorableNames
    {session : Session}
    (arises : session.Arises) :
    session.monitor.HasStorableNames := by
  induction arises with
  | fresh config machine =>
      refine Monitor.HasStorableNames.of_keepsNames ?_ (.settleHistory _)
      exact ⟨SymbolTable.isStorable_empty, NameMap.isOrdered_nil⟩
  | deal earlier dealing setsStorable inductionHypothesis =>
      exact deal_hasStorableNames inductionHypothesis setsStorable
  | configure earlier config inductionHypothesis =>
      exact ⟨inductionHypothesis.symbols, inductionHypothesis.bindings⟩

end Session

/--
Whatever was done with a session, what is stored of its monitor is taken over
by any monitor that keeps as many operator lines, and is what is stored then.
-/
theorem stored_state_round_trips
    {source : Session}
    (arises : source.Arises)
    (target : Monitor)
    (fits : source.monitor.commandHistory.length ≤ target.config.commandHistoryLength) :
    ∃ restored,
      target.restore source.monitor.saved = .ok restored ∧
        target.TakesOver source.monitor restored ∧
        restored.saved = source.monitor.saved := by
  have takesOver := Monitor.takesOver_withSnapshot fits
  exact
    ⟨_, Monitor.restore_eq_ok_iff.mpr ⟨_, arises.hasStorableNames.isHeldBy_saved, rfl⟩, takesOver,
      takesOver.saved_eq⟩

/-- A variable, the other dialect, a listing, and a symbol are there in another session. -/
theorem session_round_trips_to_another_one :
    let symbols := SymbolTable.empty.withModule "rom" 0x100 0x20 [("Start", ⟨some 4, none, none⟩)]
    let source :=
      ((Session.fresh .default .initial).deal (.setSymbols symbols)).deal
        (.call (.request (.line "var count = 2A; s 8086; d 200 10; m port on")))
    let target := (Session.fresh .default .initial).monitor
    source.Arises ∧
      source.monitor.commandHistory.length ≤ target.config.commandHistoryLength ∧
      ∃ restored,
        target.restore source.monitor.saved = .ok restored ∧
          restored.bindings = [("count", 0x2A)] ∧
          restored.dialect = .intel8086 ∧
          restored.dumpCursor.address? = some 0x210 ∧
          restored.assembleCursor.isSet = false ∧
          restored.symbols.addressNamed? "start" = some 0x104 ∧
          restored.saved = source.monitor.saved := by
  intro symbols source target
  have storable : symbols.IsStorable :=
    SymbolTable.isStorable_empty.withModule "rom" 0x100 (by decide) _
  have arises : source.Arises := by
    refine .deal (.deal (.fresh _ _) _ fun set same => ?_) _ nofun
    cases same
    exact storable
  obtain ⟨fits, bindings, dialect, dumpCursor, assembleCursor, named⟩ :
      source.monitor.commandHistory.length ≤ target.config.commandHistoryLength ∧
        source.monitor.bindings = [("count", 0x2A)] ∧
        source.monitor.dialect = .intel8086 ∧
        source.monitor.dumpCursor.bare.address? = some 0x210 ∧
        source.monitor.assembleCursor.bare.isSet = false ∧
        source.monitor.symbols.addressNamed? "start" = some 0x104 := by
    decide +kernel
  obtain ⟨restored, came, takesOver, saved⟩ := stored_state_round_trips arises target fits
  refine ⟨arises, fits, restored, came, takesOver.bindings.trans bindings,
    takesOver.dialect.trans dialect, ?_, ?_, ?_, saved⟩
  · rw [takesOver.dumpCursor, dumpCursor]
  · rw [takesOver.assembleCursor, assembleCursor]
  · rw [takesOver.symbols, named]

end Monitor8080
