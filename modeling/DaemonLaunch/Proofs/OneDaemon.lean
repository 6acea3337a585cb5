import DaemonLaunch.Launch.Sleeper
import DaemonLaunch.Proofs.GenerationFamily

/-!
Launching a sleeper in a whole family of processes. Of the one process that was there before come
exactly one leader of a session and one daemon; the leader alone speaks and the daemon alone does a
daemon's work. If a step towards the daemon fails nobody speaks and nobody does that work.
-/

namespace DaemonLaunch

open Activity

/-- Whether an event is a step that only a daemon takes. -/
def Event.isDaemonStep : Event → Bool
  | .asked .openNull => true
  | .asked (.redirect _) => true
  | .asked (.enterDirectory _) => true
  | .slept _ => true
  | _ => false

private theorem Process.Is.idle {p : Process} {pid session : Pid} {forks : Nat}
    {view : List ForkOutcome} {asked : List Event} (h : p.Is pid session forks view asked [])
    (hasked : ∀ e ∈ asked, e.isParting) :
    p.written = [] ∧ ∀ e ∈ p.events, ¬ e.isDaemonStep := by
  refine ⟨h.written_eq, ?_⟩
  intro e hmem
  rw [h.events_eq] at hmem
  have hparting := hasked e hmem
  cases e with
  | asked request => cases request <;> simp_all [Event.isParting, Event.isDaemonStep]
  | slept span => cases hparting
  | marked label => cases hparting

/-- A call that neither makes a process nor starts a session, and does not write to standard
output. -/
def Call.IsQuiet (c : Call) : Prop := c.Among (Kind.allBut [.parting, .printing])

theorem Call.IsQuiet.isLone {c : Call} (hc : c.IsQuiet) : c.IsLone := hc.mono (by decide)

/-- A call that a daemon makes once it is there: a request, a sleep or a line in the log. -/
def Call.Dwells (c : Call) : Prop := c.Among [.sending, .adjusting, .asking, .sleeping, .noting]

theorem Call.Dwells.isQuiet {c : Call} (hc : c.Dwells) : c.IsQuiet := hc.mono (by decide)

/-- A call by which a daemon changes its surroundings. -/
def Call.Adjusts (c : Call) : Prop := c.Among [.adjusting]

theorem Call.Adjusts.dwells {c : Call} (hc : c.Adjusts) : c.Dwells := hc.mono (by decide)

namespace Launch

private theorem only_redirect (stream : Stream) : (redirect stream).run.Only Call.Adjusts :=
  only_request _ (by rfl) fun _ => only_accept _ _

theorem only_detachStreams : detachStreams.run.Only Call.Adjusts := by
  apply only_request _ (by rfl)
  intro reply
  apply Only.except_bind (only_accept _ reply)
  intro _
  apply Only.except_bind (only_redirect .input)
  intro _
  apply Only.except_bind (only_redirect .output)
  intro _
  apply Only.except_bind (only_redirect .error)
  intro _
  trivial

theorem only_enterRoot : enterRoot.run.Only Call.Adjusts :=
  only_request _ (by rfl) fun _ => only_accept _ _

end Launch

namespace Sleeper

theorem only_nap (span : Span) : (nap span).Only Call.Dwells := by
  refine ⟨rfl, fun _ => ⟨rfl, fun _ => ⟨rfl, fun _ => ⟨rfl, fun _ => ⟨rfl, fun _ => trivial⟩⟩⟩⟩⟩

theorem only_dwell (s : Settings) : (dwell s).run.Only Call.Dwells := by
  have hnap : (liftM (nap s.sleepSpan) : Launch Unit).run.Only Call.Dwells :=
    Only.lift (only_nap s.sleepSpan)
  have hroot : (if s.enterRoot then Launch.enterRoot >>= fun _ => liftM (nap s.sleepSpan)
      else liftM (nap s.sleepSpan) : Launch Unit).run.Only Call.Dwells := by
    cases s.enterRoot with
    | true =>
      exact Only.except_bind (Launch.only_enterRoot.mono fun _ => Call.Adjusts.dwells) fun _ => hnap
    | false => exact hnap
  apply Launch.only_request _ (by rfl)
  intro self
  apply Only.except_bind (Only.lift (Only.perform (by rfl)))
  intro _
  cases s.detachStreams with
  | true =>
    have hdetach := Launch.only_detachStreams.mono fun _ => Call.Adjusts.dwells
    exact Only.except_bind hdetach fun _ => hroot
  | false => exact hroot

private theorem writeAll_standardOutput {bytes : List UInt8} (h : bytes ≠ []) :
    standardOutput.writeAll bytes = call (.print bytes) fun _ => done (.ok ()) := by
  cases bytes with
  | nil => exact absurd rfl h
  | cons b bytes =>
    have hall : (b :: bytes).drop (b :: bytes).length = [] := List.drop_length
    rw [Writer.writeAll, Writer.writeRest]
    simp only [standardOutput, perform, pure_eq_done, call_bind, done_bind]
    simp only [hall, Writer.writeRest]
    rfl

theorem play_leader (s : Settings) (daemon : Pid) :
    (play s (.leader daemon)).run =
      call (.print (Announcement.text daemon).toUTF8.toList) fun _ =>
        call (.print "\n".toUTF8.toList) fun _ => stop (.exit 0) := by
  have hend : "\n".toUTF8.toList ≠ [] := Text.toList_toUTF8_ne_nil (by decide)
  have hwrite : Announcement.write standardOutput daemon =
      call (.print (Announcement.text daemon).toUTF8.toList) fun _ =>
        call (.print "\n".toUTF8.toList) fun _ => done (.ok ()) := by
    rw [Announcement.write, Announcement.pieces, Writer.writePieces, Writer.writePieces,
      writeAll_standardOutput (Announcement.text_ne_nil daemon), writeAll_standardOutput hend]
    rfl
  rw [play, Announcement.announce, hwrite]
  rfl

variable (plan : ForkPlan) {p : Process} {pid session : Pid} {forks : Nat} {view : List ForkOutcome}
  {asked : List Event}
  {printed : List UInt8}

theorem family_play_launcher (s : Settings) (child : Pid)
    (h : p.Is pid session forks view asked printed) :
    ∃ o, family plan (play s (.launcher child)).run p = [⟨o, .ended (.exit 0)⟩] ∧
      o.Is pid session forks view asked printed :=
  ⟨_, rfl, h.emit _⟩

theorem family_play_leader (s : Settings) (daemon : Pid)
    (h : p.Is pid session forks view asked printed) :
    ∃ l, family plan (play s (.leader daemon)).run p = [⟨l, .ended (.exit 0)⟩] ∧
      l.Is pid session forks view asked (printed ++ Announcement.line daemon) := by
  have hprinted := (h.print (Announcement.text daemon).toUTF8.toList).print "\n".toUTF8.toList
  rw [List.append_assoc, Announcement.text_append_end] at hprinted
  rw [play_leader]
  exact ⟨_, rfl, hprinted⟩

theorem family_play_daemon (s : Settings) (h : p.Is pid session forks view asked printed) :
    ∃ d more outcome, family plan (play s .daemon).run p = [⟨d, outcome⟩] ∧ d.self = pid ∧
      d.session = session ∧
      d.view = view ∧ d.written = printed ∧ d.events = asked ++ more ∧
      more.filter Event.isParting = [] := by
  have hquiet : (dwell s).run.Only Call.IsQuiet := (only_dwell s).mono fun _ hc => hc.isQuiet
  -- kept by every quiet call: who it is, what was written, and that nothing was parted since
  let Kept (m : Machine Script) : Prop := m.system.self = pid ∧ m.output = p.machine.output ∧
    ∃ more, m.events = p.machine.events ++ more ∧ more.filter Event.isParting = []
  have hstep : ∀ (m : Machine Script) c,
      c.IsQuiet → Kept m → Kept (m.perform Script.kernel c).2 := by
    rintro m c hc ⟨hself, houtput, more, hevents, hmore⟩
    refine ⟨?_, ?_, more ++ c.recorded, ?_, ?_⟩
    · rw [Machine.perform_system]
      cases c with
      | ask request =>
        exact (Script.serve_self (by rintro rfl; cases hc) m.now m.system).trans hself
      | _ => exact hself
    · rw [Machine.perform_output Script.kernel m (by rintro bytes rfl; cases hc)]
      exact houtput
    · rw [Machine.events_perform, hevents, List.append_assoc]
    · rw [List.filter_append, hmore, hc.isLone.no_partings, List.append_nil]
  have hkept : Kept (run Script.kernel (dwell s).run p.machine).2 :=
    hquiet.run_keeps hstep ⟨h.self, rfl, [], (List.append_nil _).symm, rfl⟩
  obtain ⟨hself, houtput, more, hevents, hmore⟩ := hkept
  have hfamily := (hquiet.mono fun _ => Call.IsQuiet.isLone).family_eq plan p
  refine ⟨_, more, _, hfamily, hself, h.session, h.view, ?_, ?_, hmore⟩
  · rw [← h.written_eq]
    exact congrArg (List.drop p.origin.output.length) houtput
  · rw [h.events, List.append_assoc] at hevents
    exact (congrArg (List.drop p.origin.events.length) hevents).trans List.drop_left

section Launching

variable {plan} (settings : Settings) (s : Script) (files : FileSystem) (logger : Option Logger)
  (session : Pid)

theorem first_is : (Process.first s files logger session).Is s.self session 0 [] [] [] :=
  ⟨rfl, rfl, rfl, rfl, rfl, rfl, rfl⟩

theorem family_launch_unforked {code : ErrorCode} (hfirst : plan s.self 0 = .error code) :
    ∃ o outcome, family plan (launchSleeper settings).run (.first s files logger session) =
        [⟨o, outcome⟩] ∧
      o.Is s.self session 1 [.failed code] [.asked .fork] [] := by
  obtain ⟨o, hdetach, ho⟩ := Generation.family_detach_error (first_is s files logger session) hfirst
  rw [launchSleeper, family_except_bind, hdetach]
  exact ⟨o, _, rfl, ho⟩

theorem family_launch_forked {child : Pid} (hfirst : plan s.self 0 = .ok child) :
    ∃ o l, family plan (launchSleeper settings).run (.first s files logger session) =
        ⟨o, .ended (.exit 0)⟩ :: (family plan Generation.lead.run l).flatMap
          (goOnExcept plan (play settings)) ∧
      o.Is s.self session 1 [.parent child] [.asked .fork] [] ∧
      l.Is child session 0 [.child child] [] [] ∧
      l.machine.system.newSessionError = s.newSessionError := by
  obtain ⟨o, l, hdetach, ho, hl, hsame⟩ :=
    Generation.family_detach_ok (first_is s files logger session) hfirst
  obtain ⟨o', hplay, ho'⟩ := family_play_launcher plan settings child ho
  rw [launchSleeper, family_except_bind, hdetach, List.flatMap_cons]
  exact ⟨o', l, congrArg (· ++ _) hplay, ho', hl, hsame⟩

theorem family_led_ok {l : Process} {child daemon : Pid}
    (h : l.Is child session 0 [.child child] [] [])
    (hsession : l.machine.system.newSessionError = none) (hsecond : plan child 0 = .ok daemon) :
    ∃ l' d more outcome, (family plan Generation.lead.run l).flatMap
      (goOnExcept plan (play settings)) =
        [⟨l', .ended (.exit 0)⟩, ⟨d, outcome⟩] ∧
      l'.Is child child 1 [.child child, .parent daemon] [.asked .newSession, .asked .fork]
        (Announcement.line daemon) ∧
      d.self = daemon ∧ d.session = child ∧ d.view = [.child child,
        .child daemon] ∧ d.written = [] ∧
      d.events = more ∧ more.filter Event.isParting = [] := by
  obtain ⟨entered, hlead, hentered⟩ := Generation.family_lead_ok h hsession
  obtain ⟨led, d, hpart, hled, hd⟩ := Generation.family_part_ok hentered hsecond
  obtain ⟨l', hplay, hl'⟩ := family_play_leader plan settings daemon hled
  obtain ⟨d', more, outcome, hdwell, hself, hin, hview, hwritten, hevents, hmore⟩ :=
    family_play_daemon plan settings hd
  have hmembers : (family plan Generation.lead.run l).flatMap (goOnExcept plan (play settings)) =
      family plan (play settings (.leader daemon)).run led ++
        (family plan (play settings .daemon).run d ++ []) := by
    rw [hlead, hpart]
    rfl
  rw [hmembers, hplay, hdwell]
  exact ⟨l', d', more, outcome, rfl, hl', hself, hin, hview, hwritten, hevents, hmore⟩

/-- Where the session or the second fork fails there is no daemon, and the leader says nothing. -/
theorem family_led_error {l : Process} {child : Pid} (h : l.Is child session 0 [.child child] [] [])
    (hfails : (∃ code, l.machine.system.newSessionError = some code) ∨
      ∃ code, plan child 0 = .error code) :
    ∃ l' outcome in' forks view asked,
      (family plan Generation.lead.run l).flatMap (goOnExcept plan (play settings)) =
        [⟨l', outcome⟩] ∧ l'.Is child in' forks view asked [] ∧ ∀ e ∈ asked, e.isParting := by
  cases hsession : l.machine.system.newSessionError with
  | some code =>
    obtain ⟨l', hlead, hl'⟩ := Generation.family_lead_error h hsession
    rw [hlead]
    exact ⟨l', _, _, _, _, _, rfl, hl', by simp [Event.isParting]⟩
  | none =>
    obtain ⟨code, hsecond⟩ := hfails.resolve_left (by simp [hsession])
    obtain ⟨entered, hlead, hentered⟩ := Generation.family_lead_ok h hsession
    obtain ⟨l', hpart, hl'⟩ := Generation.family_part_error hentered hsecond
    rw [hlead, hpart]
    exact ⟨l', _, _, _, _, _, rfl, hl', by simp [Event.isParting]⟩

theorem family_launch_ok {child daemon : Pid} (hfirst : plan s.self 0 = .ok child)
    (hsession : s.newSessionError = none) (hsecond : plan child 0 = .ok daemon) :
    ∃ o l d more outcome, family plan (launchSleeper settings).run (.first s files logger session) =
        [⟨o, .ended (.exit 0)⟩, ⟨l, .ended (.exit 0)⟩, ⟨d, outcome⟩] ∧
      o.Is s.self session 1 [.parent child] [.asked .fork] [] ∧
      l.Is child child 1 [.child child, .parent daemon] [.asked .newSession, .asked .fork]
        (Announcement.line daemon) ∧
      d.self = daemon ∧ d.session = child ∧ d.view = [.child child,
        .child daemon] ∧ d.written = [] ∧
      d.events = more ∧ more.filter Event.isParting = [] := by
  obtain ⟨o, l, hfamily, ho, hl, hsame⟩ :=
    family_launch_forked settings s files logger session hfirst
  obtain ⟨l', d, more, outcome, hled, hl', hd⟩ :=
    family_led_ok settings session hl (hsame.trans hsession) hsecond
  rw [hled] at hfamily
  exact ⟨o, l', d, more, outcome, hfamily, ho, hl', hd⟩

/-- A launch that fails somewhere leaves nobody who speaks or does the work of a daemon. -/
theorem idle_of_family_launch
    (hfails : ¬ ∃ child daemon, plan s.self 0 = .ok child ∧ s.newSessionError = none ∧
      plan child 0 = .ok daemon)
    {member : Member (Except LaunchError Unit)}
    (hmem : member ∈ family plan (launchSleeper settings).run (.first s files logger session)) :
    member.process.written = [] ∧ ∀ e ∈ member.process.events, ¬ e.isDaemonStep := by
  cases hfirst : plan s.self 0 with
  | error code =>
    obtain ⟨o, outcome, hfamily, ho⟩ :=
      family_launch_unforked settings s files logger session hfirst
    rw [hfamily] at hmem
    cases List.mem_singleton.mp hmem
    exact ho.idle (by simp [Event.isParting])
  | ok child =>
    obtain ⟨o, l, hfamily, ho, hl, hsame⟩ :=
      family_launch_forked settings s files logger session hfirst
    have hled : (∃ code, l.machine.system.newSessionError = some code) ∨ ∃ code,
        plan child 0 = .error code := by
      rw [hsame]
      cases hsession : s.newSessionError with
      | some code => exact .inl ⟨code, rfl⟩
      | none =>
        cases hsecond : plan child 0 with
        | error code => exact .inr ⟨code, rfl⟩
        | ok daemon => exact absurd ⟨child, daemon, hfirst, hsession, hsecond⟩ hfails
    obtain ⟨l', outcome, in', forks, view, asked, hfamily', hl', hasked⟩ :=
      family_led_error settings session hl hled
    rw [hfamily, hfamily'] at hmem
    obtain rfl | hmem := List.mem_cons.mp hmem
    · exact ho.idle (by simp [Event.isParting])
    · cases List.mem_singleton.mp hmem
      exact hl'.idle hasked

end Launching

end Sleeper

/-- One launch makes one daemon and one announcement, or neither. -/
theorem one_daemon_one_announcement (settings : Settings) (plan : ForkPlan) (s : Script)
    (files : FileSystem) (logger : Option Logger) (session : Pid) :
    let start := Process.first s files logger session
    let members := family plan (launchSleeper settings).run start
    (∀ member ∈ members, run Script.kernel (launchSleeper settings).run
      (start.machine.facing member.process.view) =
      (member.outcome, member.process.machine.facing [])) ∧
    (∀ p d, plan s.self 0 = .ok p → s.newSessionError = none → plan p 0 = .ok d →
      s.self ≠ p → s.self ≠ d → p ≠ d →
        members.map (·.process.self) = [s.self, p, d] ∧
        members.map (·.process.view) = [[.parent p], [.child p, .parent d], [.child p, .child d]] ∧
        members.map (·.process.events.filter Event.isParting) =
          [[.asked .fork], [.asked .newSession, .asked .fork], []] ∧
        members.flatMap (·.process.written) = ("Daemon PID " ++ d.text ++ "\n").toUTF8.toList ∧
        (∀ member ∈ members, member.process.self ≠ p → member.process.written = []) ∧
        (∀ member ∈ members, ∀ e ∈ member.process.events, e.isDaemonStep →
        member.process.self = d) ∧
        ∀ member ∈ members, member.process.self = d → member.process.session = p) ∧
    ((¬ ∃ p d, plan s.self 0 = .ok p ∧ s.newSessionError = none ∧ plan p 0 = .ok d) →
      ∀ member ∈ members, member.process.written = [] ∧ ∀ e ∈ member.process.events,
        ¬ e.isDaemonStep) ∧
    ∀ p, plan s.self 0 = .ok p → ∃ member ∈ members, member.process.self = s.self ∧
      member.outcome = .ended (.exit 0) ∧ member.process.events = [.asked .fork] := by
  intro start members
  refine ⟨?_, ?_, ?_, ?_⟩
  · intro member hmem
    obtain ⟨seen, hview, hrun⟩ := run_view plan (launchSleeper settings).run start hmem
    rw [hview]
    exact hrun
  · intro p d hfirst hsession hsecond hop hod hpd
    obtain ⟨o, l, e, more, outcome, hfamily, ho, hl, hself, hin, hview, hwritten, hevents, hmore⟩ :=
      Sleeper.family_launch_ok settings s files logger session hfirst hsession hsecond
    have hmembers : members = [⟨o, .ended (.exit 0)⟩, ⟨l, .ended (.exit 0)⟩, ⟨e, outcome⟩] :=
      hfamily
    rw [hmembers]
    refine ⟨?_, ?_, ?_, ?_, ?_, ?_, ?_⟩
    · simp [ho.self, hl.self, hself]
    · simp [ho.view, hl.view, hview]
    · simp [ho.events_eq, hl.events_eq, hevents, hmore, Event.isParting]
    · simp [ho.written_eq, hl.written_eq, hwritten, Announcement.line_eq]
    · simp [ho.written_eq, hl.self, hwritten]
    · simp [ho.events_eq, hl.events_eq, hself, Event.isDaemonStep]
    · simp [ho.self, hl.self, hl.session, hin, hod, hpd]
  · intro hfails member hmem
    exact Sleeper.idle_of_family_launch settings s files logger session hfails hmem
  · intro p hfirst
    obtain ⟨o, l, hfamily, ho, -, -⟩ :=
      Sleeper.family_launch_forked settings s files logger session hfirst
    refine ⟨⟨o, .ended (.exit 0)⟩, ?_, ho.self, rfl, ho.events_eq⟩
    have hmembers : members = ⟨o, .ended (.exit 0)⟩ :: _ := hfamily
    rw [hmembers]
    exact List.mem_cons_self

/-- The family of a launch in which the original process has the identifier 1000. -/
theorem one_daemon_one_announcement_of_4242 :
    let plan : ForkPlan := fun pid _ => if pid = ⟨1000⟩ then .ok ⟨4241⟩ else .ok ⟨4242⟩
    let members := family plan (launchSleeper {}).run (.first {} {} none ⟨900⟩)
    members.map (·.process.self) = [⟨1000⟩, ⟨4241⟩, ⟨4242⟩] ∧
      members.flatMap (·.process.written) = "Daemon PID 4242\n".toUTF8.toList ∧
      ∀ member ∈ members, member.process.self = ⟨4242⟩ → member.process.session = ⟨4241⟩ := by
  intro plan members
  obtain ⟨-, hsucceeds, -, -⟩ := one_daemon_one_announcement {} plan {} {} none ⟨900⟩
  obtain ⟨hselves, -, -, hwritten, -, -, hsession⟩ :=
    hsucceeds ⟨4241⟩ ⟨4242⟩ rfl rfl rfl (by decide) (by decide) (by decide)
  have htext : "Daemon PID " ++ Pid.text ⟨4242⟩ ++ "\n" = "Daemon PID 4242\n" := by
    decide
  rw [htext] at hwritten
  exact ⟨hselves, hwritten, hsession⟩

end DaemonLaunch
