import Tabletop.Proofs.CommandLine.Script
import Tabletop.Proofs.CommandLine.Switches
import Tabletop.Proofs.Json.ReadBack
import Tabletop.Proofs.Log.Reconfigured

/-!
# Log records as lines of JSON

A log in JSON is a list of lines, one for each record and in the order of the records. Each line is
of printable ASCII and is read as a record of JSON that tells the message, the level and the logger
as they are (`Log.Tells`). A text within a message, such as a line of a script, can therefore
neither break a line of the log nor make up one, whatever characters it holds.

`Log.tellsAll_write` says this of any records of the program's own loggers, and `json_log_lines`
also of the log of a whole call.
-/

set_option autoImplicit false

namespace Tabletop

/-! ## Records of JSON -/

theorem Fields.mem_put {fields : Fields} {key : String} {value : Value} {field : String × Value}
    (h : field ∈ fields.put key value) : field ∈ fields ∨ field = (key, value) := by
  induction fields with
  | nil => exact .inr (List.mem_singleton.1 h)
  | cons first fields ih =>
    obtain ⟨k, v⟩ := first
    rw [put] at h
    split at h
    · rename_i hk
      rcases List.mem_cons.1 h with h | h
      · exact .inr (hk ▸ h)
      · exact .inl (List.mem_cons_of_mem _ h)
    · rcases List.mem_cons.1 h with rfl | h
      · exact .inl List.mem_cons_self
      · exact (ih h).imp_left (List.mem_cons_of_mem _)

/-- A record of JSON is one still after a field is given. -/
theorem Value.IsJson.put {whole : Int → Prop} {fields : Fields} {value : Value}
    (h : (Value.record fields).IsJson whole) (key : String) (hvalue : value.IsJson whole) :
    (Value.record (fields.put key value)).IsJson whole := by
  cases h with
  | record hkeys hfields =>
    refine .record (Fields.nodup_put hkeys) fun field hfield => ?_
    rcases Fields.mem_put hfield with hfield | rfl
    · exact hfields field hfield
    · exact hvalue

namespace Log

variable {record : Record} {sink : Sink} {time : String}

/-! ## One record -/

/-- A record of one of the program's own loggers that is grave enough for a log of all levels, with
no fields but such as JSON can hold and tell. -/
structure Record.IsOurs (record : Record) : Prop where
  logger : isOurs record.logger = true
  level : Level.debug.number ≤ record.level.number
  context : (Value.record record.context).IsJson shortInteger

/-- A line tells a record: it is printable ASCII and stands for a record of JSON with the message,
the level and the logger. -/
structure Tells (record : Record) (line : List Char) : Prop where
  ascii : line.all Json.isPrintableAscii = true
  reads : ∃ fields : Fields, Json.read? (String.ofList line) = some (.record fields) ∧
    fields.get? "event" = some (.text record.message) ∧
    fields.get? "level" = some (.text record.level.name) ∧
    fields.get? "logger" = some (.text record.logger)

theorem isJson_fields (h : record.IsOurs) (time : String) :
    (Value.record (record.fields time)).IsJson shortInteger := by
  have hcause : (Value.list (record.cause.map Value.text)).IsJson shortInteger := by
    refine .list fun item hitem => ?_
    obtain ⟨part, -, rfl⟩ := List.mem_map.1 hitem
    exact .text part
  have hgiven := h.context.put "event" (.text record.message)
  unfold Record.fields
  dsimp only
  split
  · exact ((hgiven.put _ (.text _)).put _ (.text _)).put _ (.text _)
  · exact (((hgiven.put _ hcause).put _ (.text _)).put _ (.text _)).put _ (.text _)

/-- The line of a record of the program's own tells the record. -/
theorem tells_line (h : record.IsOurs) (time : String) :
    Tells record (Json.line (.record (record.fields time))) where
  ascii := Json.isPrintableAscii_line (isJson_fields h time)
  reads := by
    refine ⟨record.fields time, Json.read?_oneLine (isJson_fields h time), ?_, ?_, ?_⟩
    · unfold Record.fields
      dsimp only
      split <;> simp [Fields.get?_put]
    · simp [Record.fields, Fields.get?_put]
    · simp [Record.fields, Fields.get?_put]

/-! ## A configured sink -/

/-- The handlers of others write nothing of a record. -/
def Sink.OthersSilent (sink : Sink) (time : String) (record : Record) : Prop :=
  ∀ writes, .foreign writes ∈ sink.handlers → writes time record = ""

theorem Sink.join_others (h : sink.OthersSilent time record) :
    String.join (sink.others.map (handled time record)) = "" := by
  apply join_eq_empty
  rw [List.forall_mem_map]
  intro handler hhandler
  obtain ⟨hmem, hforeign⟩ := List.mem_filter.1 hhandler
  cases handler with
  | foreign writes => exact h writes hmem
  | standardError layout => cases hforeign

/-- What a sink that was configured for JSON and for all levels writes of a record of the program's
own. -/
theorem toList_write (h : record.IsOurs) (hsilent : sink.OthersSilent time record) :
    ((Sink.configure true true sink).write time record).toList =
      Json.line (.record (record.fields time)) ++ ['\n'] := by
  have hreaches : record.level.reaches (Choice.threshold ⟨true, true⟩) = true :=
    (Level.reaches_iff (Choice.threshold_pos _)).2 h.level
  have hwrite := Sink.write_configured sink.others ⟨true, true⟩ time record
  rw [if_pos hreaches, Sink.join_others hsilent, ← Sink.configure_eq_configured] at hwrite
  rw [hwrite]
  simp [Record.line, Choice.layout, Json.oneLine]

/-- Lines that tell records, one for each of them and in order, each with a line feed at its end. -/
def TellsAll (records : List Record) (written : List Char) : Prop :=
  ∃ lines : List (List Char), written = lines.flatMap (· ++ ['\n']) ∧
    List.Forall₂ Tells records lines

/-- A configured sink writes of the program's own records one line for each, in order. -/
theorem tellsAll_write (sink : Sink) (entries : List (String × Record))
    (h : ∀ entry ∈ entries, entry.2.IsOurs)
    (hsilent : ∀ entry ∈ entries, sink.OthersSilent entry.1 entry.2) :
    TellsAll (entries.map Prod.snd) (entries.flatMap fun entry =>
      ((Sink.configure true true sink).write entry.1 entry.2).toList) := by
  induction entries with
  | nil => exact ⟨[], rfl, .nil⟩
  | cons entry entries ih =>
    obtain ⟨hentry, hentries⟩ := List.forall_mem_cons.1 h
    obtain ⟨hnothing, hsilent⟩ := List.forall_mem_cons.1 hsilent
    obtain ⟨lines, hlines, htells⟩ := ih hentries hsilent
    refine ⟨_ :: lines, ?_, .cons (tells_line hentry entry.1) htells⟩
    rw [List.flatMap_cons, List.flatMap_cons, hlines, toList_write hentry hnothing]

/-- Lines that tell records are ASCII. -/
theorem TellsAll.ascii {records : List Record} {written : List Char}
    (h : TellsAll records written) : ∀ c ∈ written, c.toNat < 0x80 := by
  obtain ⟨lines, rfl, htells⟩ := h
  induction htells with
  | nil => exact List.forall_mem_nil _
  | @cons record line records lines htold _ ih =>
    intro c hc
    rw [List.flatMap_cons, List.mem_append, List.mem_append, List.mem_singleton] at hc
    rcases hc with (hc | rfl) | hc
    · have hprintable := List.all_eq_true.1 htold.ascii c hc
      simp only [Json.isPrintableAscii, Bool.and_eq_true, decide_eq_true_eq] at hprintable
      omega
    · decide
    · exact ih c hc

/-! ## The records of the program -/

theorem isOurs_loggers :
    ∀ logger ∈ [dispatchLogger, simulationLogger, checkLogger, runLogger],
      isOurs logger = true := by
  decide +kernel

theorem isOurs_debug {logger : String} (h : isOurs logger = true) (message : String) :
    (debug logger message).IsOurs :=
  ⟨h, Int.le_refl _, .record List.nodup_nil nofun⟩

end Log

theorem Simulation.isOurs_feed (simulation : Simulation) (line : String) :
    ∀ record ∈ (simulation.feed line).record, record.IsOurs := by
  intro record hrecord
  unfold feed at hrecord
  split at hrecord
  · cases hrecord
  · split at hrecord
    · cases hrecord
      exact Log.isOurs_debug (Log.isOurs_loggers _ (by simp)) _
    · rename_i command _
      have hrefused : command.record? (simulation.countCommand command).2 = some record := hrecord
      obtain ⟨-, hrefusal⟩ := Option.ite_none_right_eq_some.1 hrefused
      cases hrefusal
      exact Log.isOurs_debug (Log.isOurs_loggers _ (by simp)) _

theorem Simulation.isOurs_feedAll (simulation : Simulation) (lines : List String) :
    ∀ record ∈ (simulation.feedAll lines).log, record.IsOurs := by
  induction lines generalizing simulation with
  | nil => exact nofun
  | cons line lines ih =>
    intro record hrecord
    rcases List.mem_append.1 hrecord with hrecord | hrecord
    · exact simulation.isOurs_feed line record (Option.mem_toList.1 hrecord)
    · exact ih _ record hrecord

theorem Check.isOurs_countLine (mode : Mode) (tally : Tally) (line : String) :
    ∀ record ∈ (countLine mode tally line).2, record.IsOurs := by
  intro record hrecord
  unfold countLine at hrecord
  dsimp only at hrecord
  split at hrecord
  · cases hrecord
  · split at hrecord
    · cases hrecord
      exact Log.isOurs_debug (Log.isOurs_loggers _ (by simp)) _
    · cases hrecord

theorem Check.isOurs_countLines (mode : Mode) (tally : Tally) (lines : List String) :
    ∀ record ∈ (countLines mode tally lines).2, record.IsOurs := by
  induction lines generalizing tally with
  | nil => exact nofun
  | cons line lines ih =>
    intro record hrecord
    rcases List.mem_append.1 hrecord with hrecord | hrecord
    · exact isOurs_countLine mode tally line record (Option.mem_toList.1 hrecord)
    · exact ih _ record hrecord

theorem Check.isOurs_run (mode : Mode) (source : Source) :
    ∀ record ∈ (run mode source).log, record.IsOurs := by
  intro record hrecord
  rw [run_eq] at hrecord
  dsimp only at hrecord
  split at hrecord
  · exact isOurs_countLines mode {} _ record hrecord
  · rcases List.mem_append.1 hrecord with hrecord | hrecord
    · exact isOurs_countLines mode {} _ record hrecord
    · rw [List.mem_singleton.1 hrecord]
      exact Log.isOurs_debug (Log.isOurs_loggers _ (by simp)) _

namespace CommandLine

variable {tree : FileTree} {input : List UInt8} {settings : Settings}

/-- An outcome whose records are the program's own, and go where the settings say. -/
structure LogsOurs (settings : Settings) (outcome : Outcome) : Prop where
  sink : outcome.sink = settings.sink
  log : ∀ record ∈ outcome.log, record.IsOurs

theorem logsOurs_emit [Text.EmojiTable] {log : List Log.Record} (h : ∀ record ∈ log, record.IsOurs)
    (output : String) (result : Result) :
    LogsOurs settings (emit settings output log result) := by
  unfold emit
  dsimp only
  split
  · exact ⟨rfl, h⟩
  · split <;> exact ⟨rfl, h⟩

theorem isOurs_append {front back : List Log.Record} (hfront : ∀ record ∈ front, record.IsOurs)
    (hback : ∀ record ∈ back, record.IsOurs) : ∀ record ∈ front ++ back, record.IsOurs := by
  intro record hrecord
  exact (List.mem_append.1 hrecord).elim (hfront record) (hback record)

theorem logsOurs_abort [Text.EmojiTable] {log : List Log.Record} (h : ∀ record ∈ log, record.IsOurs)
    (script : Script) (output : String) (failure : ReadFailure) :
    LogsOurs settings (abort settings script output log failure) := by
  have haborted : (abortedRecord failure).IsOurs :=
    ⟨Log.isOurs_loggers Log.runLogger (by simp), Int.le_refl _, .record List.nodup_nil nofun⟩
  exact logsOurs_emit (isOurs_append h (List.forall_mem_singleton.2 haborted)) output _

theorem logsOurs_run [Text.EmojiTable] (board : Board) (script : Script) :
    LogsOurs settings (run tree input settings board script) := by
  unfold run
  split
  · exact logsOurs_abort (List.forall_mem_nil _) script "" _
  · rename_i source _
    have hlog := (Simulation.new board settings.mode).isOurs_feedAll source.readAll.lines
    dsimp only
    rw [Simulation.run_eq]
    split
    · exact logsOurs_abort hlog script _ _
    · exact ⟨rfl, isOurs_append hlog
        (List.forall_mem_singleton.2 (Log.isOurs_debug (Log.isOurs_loggers _ (by simp)) _))⟩

theorem logsOurs_check [Text.EmojiTable] (script : Script) :
    LogsOurs settings (check tree input settings script) := by
  unfold check
  split
  · exact logsOurs_emit (List.forall_mem_nil _) "" _
  · dsimp only
    split <;> exact logsOurs_emit (Check.isOurs_run _ _) "" _

theorem logsOurs_perform [Text.EmojiTable] (task : Option (Task × List String)) :
    LogsOurs settings (perform tree input settings task) := by
  unfold perform
  split
  · exact ⟨rfl, List.forall_mem_nil _⟩
  · split
    · rename_i ending _
      exact ⟨rfl, by cases ending <;> exact List.forall_mem_nil _⟩
    · rename_i request _
      cases request with
      | run script width height => exact logsOurs_run _ _
      | check script => exact logsOurs_check _

/-- Under settings for JSON and all levels, the log of an outcome is told line by line. -/
theorem LogsOurs.tellsAll {outcome : Outcome} (h : LogsOurs settings outcome)
    (hverbose : settings.verbose = true) (hjson : settings.logJson = true) (time : String) :
    Log.TellsAll outcome.log (String.join (outcome.log.map (outcome.sink.write time))).toList := by
  have htells := Log.tellsAll_write ⟨[], none, true⟩
    (outcome.log.map fun record => (time, record)) (List.forall_mem_map.2 h.log)
    fun entry _ writes hwrites => by cases hwrites
  rw [h.sink, Settings.sink, hverbose, hjson, String.toList_join, List.flatMap_map]
  rw [List.map_map, List.flatMap_map] at htells
  have hrecords : outcome.log.map (Prod.snd ∘ fun record => (time, record)) = outcome.log :=
    List.map_id _
  rwa [hrecords] at htells

/-- After the log was configured for JSON and for all levels, records of the program's own loggers
of which the handlers of others write nothing are written as ASCII, one line for each of them and in
order, and each line is read as a record of JSON with the message, the level and the logger. So is
the log of every call with the two switches for it, whatever its script holds; what the call has to
say of itself follows behind. -/
theorem json_log_lines [Text.EmojiTable] :
    (∀ (sink : Log.Sink) (entries : List (String × Log.Record)),
      (∀ entry ∈ entries, entry.2.IsOurs) →
        (∀ entry ∈ entries, sink.OthersSilent entry.1 entry.2) →
        let written := String.join (entries.map fun entry =>
          (Log.Sink.configure true true sink).writeAny entry.1 entry.2)
        (∀ c ∈ written.toList, c.toNat < 0x80) ∧
          Log.TellsAll (entries.map Prod.snd) written.toList) ∧
    ∀ (around : Surroundings) (input : List UInt8) (words : List String) (opening : Opening)
      (time : String), Opening.ofWords words = .ok opening → opening.verbose = true →
        opening.logJson = true →
          let outcome := invoke around input words
          ∃ written, (outcome.standardError time).toList = written ++ outcome.errors.toList ∧
            (∀ c ∈ written, c.toNat < 0x80) ∧ Log.TellsAll outcome.log written := by
  constructor
  · intro sink entries h hsilent written
    have hwritten : written.toList = entries.flatMap fun entry =>
        ((Log.Sink.configure true true sink).write entry.1 entry.2).toList := by
      rw [String.toList_join, List.flatMap_map]
      refine List.flatMap_congr fun entry hentry => ?_
      rw [Log.Sink.writeAny, if_pos (h entry hentry).logger]
    have htells := Log.tellsAll_write sink entries h hsilent
    rw [← hwritten] at htells
    exact ⟨htells.ascii, htells⟩
  · intro around input words opening time hopening hverbose hjson outcome
    have htells : Log.TellsAll outcome.log
        (String.join (outcome.log.map (outcome.sink.write time))).toList := by
      simp only [outcome, invoke, hopening]
      cases hload : Settings.load around opening.config none opening.flags with
      | error failure =>
        have hlog : (unsettled failure).log = [] := by
          unfold unsettled
          split <;> rfl
        rw [hlog]
        exact ⟨[], rfl, .nil⟩
      | ok settings =>
        exact (logsOurs_perform opening.task).tellsAll
          ((ofSettings_of_load hload .verbose).trans hverbose)
          ((ofSettings_of_load hload .logJson).trans hjson) time
    refine ⟨_, ?_, htells.ascii, htells⟩
    rw [Outcome.standardError, String.toList_append]

section

open scoped Text.FewEmoji

/-- A message that looks like the end of a line and another record. -/
def forgery : Log.Record :=
  Log.debug Log.simulationLogger "x\"\x7d\n\x7b\"event\": \"y\x00\x7f\u2028😀\r"

/-- What a run with both switches is called with. -/
def tracedRun : Opening where
  jsonOutput := false
  quiet := false
  verbose := true
  logJson := true
  config := none
  task := some (.run, [])

/-- A sink with a handler of the program's own and one of others that is for bare messages. -/
def usedSink : Log.Sink where
  handlers :=
    [.standardError .console,
      .foreign fun _ record => if record.level = .info then record.message else ""]

/-- Two such messages, one of them of a level without a name, are told on two lines by that sink.
The log of a run over such a text tells its two lines and the end of the run, and nothing else. -/
theorem json_log_lines_forgery :
    Log.TellsAll [forgery, { forgery with level := ⟨35⟩ }]
        (String.join ([("12:00", forgery), ("12:01", { forgery with level := ⟨35⟩ })].map
          fun entry => (Log.Sink.configure true true usedSink).writeAny entry.1 entry.2)).toList ∧
      ∃ log written, log.length = 3 ∧ (invoke ⟨⟨[], [], []⟩, [], {}⟩ (bytesOf forgery.message)
        ["-v", "--log-json", "run"]).log = log ∧ Log.TellsAll log written := by
  have hours : forgery.IsOurs := Log.isOurs_debug (Log.isOurs_loggers _ (by simp)) _
  have hgrave : Log.Record.IsOurs { forgery with level := ⟨35⟩ } :=
    ⟨hours.logger, by decide, hours.context⟩
  have hsilent (time : String) (level : Log.Level) (hlevel : level ≠ .info) :
      usedSink.OthersSilent time { forgery with level } := by
    intro writes hwrites
    rcases List.mem_cons.1 hwrites with hown | hforeign
    · cases hown
    · cases List.mem_singleton.1 hforeign
      exact if_neg hlevel
  have hopening : Opening.ofWords ["-v", "--log-json", "run"] = .ok tracedRun := by
    decide +kernel
  obtain ⟨hrecords, hcalls⟩ := json_log_lines
  obtain ⟨-, htells⟩ := hrecords usedSink
    [("12:00", forgery), ("12:01", { forgery with level := ⟨35⟩ })]
    (List.forall_mem_cons.2 ⟨hours, List.forall_mem_singleton.2 hgrave⟩)
    (List.forall_mem_cons.2 ⟨hsilent _ .debug (by decide),
      List.forall_mem_singleton.2 (hsilent _ ⟨35⟩ (by decide))⟩)
  obtain ⟨written, -, -, hlog⟩ := hcalls ⟨⟨[], [], []⟩, [], {}⟩ (bytesOf forgery.message)
    ["-v", "--log-json", "run"] tracedRun "12:02" hopening rfl rfl
  exact ⟨htells, _, written, by decide +kernel, rfl, hlog⟩

end

end CommandLine

end Tabletop
