import PassiveAggressive.Command.Run

/-!
# What a command has gathered

A command gathers what it needs step by step, and each step may be the last.  Where all of them
have been taken, each has given what the later ones go on with: a configuration that was loaded
(`configure_eq_ok`), settings that were made from it, and a session opened with them
(`prepare_eq_ok`).
-/

namespace PassiveAggressive
namespace Command

variable {α β ε : Type} {p p' : Progress}

namespace Run

theorem bind_eq_ok {r : Run α} {f : α → Run β} {b : β}
    (h : (r >>= f).run.run p = (.ok b, p')) :
    ∃ a q, r.run.run p = (.ok a, q) ∧ (f a).run.run q = (.ok b, p') := by
  rw [ExceptT.run_bind, StateT.run_bind] at h
  generalize r.run.run p = answer at h ⊢
  obtain ⟨result, q⟩ := answer
  cases result with
  | error e => cases h
  | ok a => exact ⟨a, q, rfl, h⟩

theorem ofExcept_eq_ok {cause : ε → CommandFault} {x : Except ε α} {a : α}
    (h : (ofExcept cause x).run.run p = (.ok a, p')) : x = .ok a ∧ p' = p := by
  cases x with
  | error e => cases h
  | ok b =>
    cases h
    exact ⟨rfl, rfl⟩

end Run

/-- A command that has been configured has loaded its configuration. -/
theorem configure_eq_ok {w : World} {config : Option Path} {c : Configuration}
    (h : (configure w config).run.run p = (.ok c, p')) :
    Configuration.load w.environment w.bindings p.files (config.map Path.display) = .ok c := by
  unfold configure at h
  obtain ⟨_, _, hget, h⟩ := Run.bind_eq_ok h
  cases hget
  obtain ⟨loaded, _, hload, h⟩ := Run.bind_eq_ok h
  obtain ⟨hload, rfl⟩ := Run.ofExcept_eq_ok hload
  obtain ⟨_, _, -, h⟩ := Run.bind_eq_ok h
  obtain ⟨_, _, -, h⟩ := Run.bind_eq_ok h
  obtain ⟨_, _, -, h⟩ := Run.bind_eq_ok h
  cases h
  exact hload

/-- A pipeline that has been prepared is one around a session that was opened with the settings of
the configuration and the command line. -/
theorem prepare_eq_ok {t : Training} {w : World} {pipeline : Pipeline Value Operand Float}
    {examples : List ReadExample}
    (h : (t.prepare w).run.run p = (.ok (pipeline, examples), p')) :
    ∃ c settings session,
      Configuration.load w.environment w.bindings p.files (t.config.map Path.display) = .ok c ∧
      t.settings c.learner = .ok settings ∧ Session.open settings = .ok session ∧
      pipeline.session = session := by
  unfold Training.prepare at h
  obtain ⟨c, _, hc, h⟩ := Run.bind_eq_ok h
  obtain ⟨settings, _, hsettings, h⟩ := Run.bind_eq_ok h
  obtain ⟨session, _, hsession, h⟩ := Run.bind_eq_ok h
  obtain ⟨_, _, -, h⟩ := Run.bind_eq_ok h
  obtain ⟨_, _, -, h⟩ := Run.bind_eq_ok h
  obtain ⟨hsettings, -⟩ := Run.ofExcept_eq_ok hsettings
  obtain ⟨hsession, -⟩ := Run.ofExcept_eq_ok hsession
  cases h
  exact ⟨c, settings, session, configure_eq_ok hc, hsettings, hsession, rfl⟩

end Command
end PassiveAggressive
