import KoiNet.Components.ConfigProvider
import KoiNet.Foundation.Execution

/-!
# What a failed save leaves in the config file

A save that fails rewrites the text that the last load read.  That is what the
file held before only if the text is not empty and the file has not been
changed since, and there is no such text if no load has found the file.
-/

namespace KoiNet

open Foundation

namespace ConfigProvider

variable {Config Data Bytes Raised : Type}
  (env : ConfigEnvironment Config Data Bytes Raised)

/-- Serialising the config raises, after writing this text. -/
inductive DumpFails (provider : ConfigProvider Config Bytes) :
    String → Raised → Prop where
  | modelDump {config : Config} {exc : Raised} :
      provider.delegate = some config →
      env.modelDump config = .error exc →
      DumpFails provider "" exc
  | yamlDump {config : Config} {data : Data} {text : String} {exc : Raised} :
      provider.delegate = some config →
      env.modelDump config = .ok data →
      env.yamlDump data = (text, some exc) →
      DumpFails provider text exc

/-- Saving raises this exception and leaves the file as it was. -/
def FailsAtomically (provider : ConfigProvider Config Bytes) (exc : Raised) :
    Prop :=
  ∃ after, (saveToYaml env).run provider = (.error (.raised exc), after) ∧
    after.file = provider.file

/-- What happens to the provider; a load may read a text. -/
inductive Event where
  | loads (text : Option String)
  | saves
  | mutates
  /-- The file is changed by others. -/
  | edits

/-- A load, which may fail, a successful save, or a change of the config or of
the file. -/
inductive EventStep : Event → ConfigProvider Config Bytes →
    ConfigProvider Config Bytes → Prop where
  | loads {provider : ConfigProvider Config Bytes} {text : Option String} :
      text = (provider.file.bind fun bytes => (env.decode bytes).toOption) →
      EventStep (.loads text) provider ((loadFromYaml env).run provider).2
  | saves {provider after : ConfigProvider Config Bytes} :
      (saveToYaml env).run provider = (.ok (), after) →
      EventStep .saves provider after
  | mutates {provider : ConfigProvider Config Bytes} (config : Config) :
      EventStep .mutates provider { provider with delegate := some config }
  | edits {provider : ConfigProvider Config Bytes} (file : Option Bytes) :
      EventStep .edits provider { provider with file := file }

/-- The text read last. -/
def lastRead (earlier : Option String) : Event → Option String
  | .loads (some text) => some text
  | _ => earlier

variable {env} {provider after : ConfigProvider Config Bytes} {text : String}
  {exc : Raised}

theorem dump_fails (fails : DumpFails env provider text exc) :
    (dump env).run (provider.withText env "") =
      (.error (.raised exc), provider.withText env text) := by
  have kept : ∀ {config}, provider.delegate = some config →
      (provider.withText env "").delegate = some config := id
  unfold dump
  cases fails with
  | modelDump delegated raised =>
      rw [Effect.run_bind_of_ok (getAttribute_some (kept delegated)),
        Effect.run_bind]
      unfold external
      rw [raised]
      rfl
  | yamlDump delegated dumped raised =>
      rw [Effect.run_bind_of_ok (getAttribute_some (kept delegated)),
        Effect.run_bind]
      unfold external
      rw [dumped]
      dsimp only [Except.mapError, Effect.run_ofExcept]
      rw [Effect.run_modify_bind, raised]
      rfl

/-- A failed save rewrites the text read last, unless it is empty, and raises
another exception if there is none. -/
theorem saveToYaml_of_fails (fails : DumpFails env provider text exc) :
    (saveToYaml env).run provider =
      match provider.fileContent with
      | none =>
          (.error (.attributeError "_file_content"),
            provider.withText env text)
      | some content =>
          (.error (.raised exc),
            provider.withText env (if content = "" then text else content)) := by
  unfold saveToYaml Effect.onRaise rewrite
  rw [Effect.run_modify_bind]
  dsimp only
  rw [dump_fails fails]
  dsimp only
  cases stored : provider.fileContent with
  | none =>
      have unset : (provider.withText env text).fileContent = none := stored
      rw [Effect.run_bind, Effect.run_bind, getAttribute_none unset]
  | some content =>
      have isSet : (provider.withText env text).fileContent = some content :=
        stored
      rw [Effect.run_bind, Effect.run_bind, getAttribute_some isSet]
      dsimp only
      by_cases empty : content = ""
      · rw [if_neg (not_not.mpr empty), if_pos empty]
        rfl
      · rw [if_pos empty, if_neg empty]
        rfl

theorem failsAtomically_iff (fails : DumpFails env provider text exc) :
    FailsAtomically env provider exc ↔
      ∃ content, provider.fileContent = some content ∧
        provider.file =
          some (env.encode (if content = "" then text else content)) := by
  unfold FailsAtomically
  rw [saveToYaml_of_fails fails]
  cases provider.fileContent with
  | none => simp
  | some content => simp [withText, eq_comm]

theorem readConfig_fileContent (provider : ConfigProvider Config Bytes) :
    ((readConfig env).run provider).2.fileContent =
      lastRead provider.fileContent (.loads (provider.file.bind fun bytes =>
        (env.decode bytes).toOption)) := by
  unfold readConfig
  rw [Effect.run_get_bind]
  cases provider.file with
  | none => rfl
  | some bytes =>
      dsimp only
      rw [Effect.run_bind, Option.bind_some]
      unfold external
      cases env.decode bytes with
      | error exc => rfl
      | ok text => rfl

theorem loadFromYaml_fileContent (provider : ConfigProvider Config Bytes) :
    ((loadFromYaml env).run provider).2.fileContent =
      lastRead provider.fileContent (.loads (provider.file.bind fun bytes =>
        (env.decode bytes).toOption)) := by
  rw [← readConfig_fileContent]
  unfold loadFromYaml Effect.tryExcept
  rw [Effect.run_bind]
  dsimp only
  cases (readConfig env).run provider with
  | mk result after =>
      cases result with
      | ok config => rfl
      | error failure =>
          dsimp only
          cases isFileNotFound env failure with
          | false => rfl
          | true =>
              rw [if_pos rfl]
              unfold external
              cases env.defaults with
              | ok config => rfl
              | error exc => rfl

theorem saveToYaml_fileContent :
    (Frame.unchanged fileContent).Keeps (saveToYaml env) := by
  have writes : ∀ text : String, (Frame.unchanged fileContent).Keeps
      (Effect.modify fun provider => provider.withText env text :
        ConfigM Config Bytes Raised Unit) :=
    fun text => Frame.keeps_modify fun _ => rfl
  have reads : ∀ {α : Type} (name : String)
      (attr : ConfigProvider Config Bytes → Option α),
      (Frame.unchanged fileContent).Keeps
        (getAttribute name attr : ConfigM Config Bytes Raised α) := by
    intro α name attr
    apply Frame.keeps_bind Frame.keeps_get
    intro provider
    split
    · exact Frame.keeps_pure _
    · exact Frame.keeps_raise _
  unfold saveToYaml
  apply Frame.keeps_bind (writes "")
  intro _
  apply Frame.keeps_onRaise
  · unfold dump
    apply Frame.keeps_bind (reads _ _)
    intro config
    apply Frame.keeps_bind (Frame.keeps_ofExcept _)
    intro data
    apply Frame.keeps_bind (writes _)
    intro _
    split
    · exact Frame.keeps_pure ()
    · exact Frame.keeps_raise _
  · unfold rewrite
    apply Frame.keeps_bind (reads _ _)
    intro content
    split
    · exact writes content
    · exact Frame.keeps_pure ()

theorem fileContent_of_trace {events : List Event} {file : Option Bytes}
    (trace : Trace (EventStep env) events (created file) provider) :
    provider.fileContent = events.foldl lastRead none := by
  refine trace.view_eq_foldl ?_
  intro event before after step
  cases step with
  | loads read =>
      rw [read]
      exact loadFromYaml_fileContent before
  | saves saved =>
      have kept : after.fileContent = before.fileContent := by
        have framed : (Frame.unchanged fileContent).Keeps (saveToYaml env) :=
          saveToYaml_fileContent
        have unchanged := framed before
        rw [saved] at unchanged
        exact unchanged
      exact kept
  | mutates config => rfl
  | edits file => rfl

/-- After any history a failing save leaves the file as it was exactly if it
still holds the text read last, unless that is empty, and what the dump has
written otherwise. -/
theorem failsAtomically_of_trace_iff {events : List Event}
    {file : Option Bytes}
    (trace : Trace (EventStep env) events (created file) provider)
    (fails : DumpFails env provider text exc) :
    FailsAtomically env provider exc ↔
      ∃ content, events.foldl lastRead none = some content ∧
        provider.file =
          some (env.encode (if content = "" then text else content)) := by
  rw [failsAtomically_iff fails, fileContent_of_trace trace]

/-- A config that is a port, where dumping a negative one fails in the middle
of the line. -/
def portEnvironment : ConfigEnvironment Int Int String Unit :=
  { encode := id
    decode := .ok
    validate := fun text =>
      if text = "port: 1\n" then .ok 1
      else if text = "port: 2\n" then .ok 2
      else .error ()
    defaults := .ok 1
    isFileNotFound := fun _ => false
    modelDump := .ok
    yamlDump := fun port =>
      if port < 0 then ("port: ", some ())
      else ("port: " ++ toString port ++ "\n", none) }

theorem failsAtomically_of_trace_loaded :
    FailsAtomically portEnvironment
      { file := some "port: 1\n"
        fileContent := some "port: 1\n"
        delegate := some (-1) } () := by
  have trace : Trace (EventStep portEnvironment)
      [.loads (some "port: 1\n"), .mutates] (created (some "port: 1\n"))
      { file := some "port: 1\n"
        fileContent := some "port: 1\n"
        delegate := some (-1) } :=
    .cons (.loads rfl) (.cons (.mutates (-1)) (.nil _))
  exact (failsAtomically_of_trace_iff trace (.yamlDump rfl rfl rfl)).mpr
    ⟨"port: 1\n", rfl, rfl⟩

/-- A save that fails after a successful one undoes it, and one that fails
where there was no file leaves what it has written and raises another
exception. -/
theorem failed_save_changes_file :
    (∃ events provider after,
      Trace (EventStep portEnvironment) events (created (some "port: 1\n"))
        provider ∧
      DumpFails portEnvironment provider "port: " () ∧
      (saveToYaml portEnvironment).run provider = (.error (.raised ()), after) ∧
      provider.file = some "port: 2\n" ∧ after.file = some "port: 1\n") ∧
    ∃ events provider after,
      Trace (EventStep portEnvironment) events (created none) provider ∧
      DumpFails portEnvironment provider "port: " () ∧
      (saveToYaml portEnvironment).run provider =
        (.error (.attributeError "_file_content"), after) ∧
      provider.file = none ∧ after.file = some "port: " := by
  constructor
  · refine ⟨[.loads (some "port: 1\n"), .mutates, .saves, .mutates], _, _,
      .cons (.loads rfl) (.cons (.mutates 2) (.cons (.saves rfl)
        (.cons (.mutates (-1)) (.nil _)))), .yamlDump rfl rfl rfl, rfl, ?_,
      rfl⟩
    decide
  · exact ⟨[.loads none, .mutates], _, _,
      .cons (.loads rfl) (.cons (.mutates (-1)) (.nil _)),
      .yamlDump rfl rfl rfl, rfl, rfl, rfl⟩

end ConfigProvider

end KoiNet
