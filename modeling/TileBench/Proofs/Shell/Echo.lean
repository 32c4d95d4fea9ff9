import TileBench.Proofs.Launch.PhaseLogs
import TileBench.Proofs.Store.Deletion
import TileBench.Proofs.Text.Words
import TileBench.Shell.Programs

/-!
# Launching echo

A program of the system is found by its name alone as long as nothing of the store is found in front
of it. The program `echo` prints its arguments, so with `echo` for a launcher nothing is run, and
the log of a phase lists the arguments of its commands, each on a line.
-/

namespace TileBench

open Text Launcher

/-! ### Paths through a file -/

namespace Store

variable {s : Store} {steps : List String} {name path : String} {links : Nat}

/-- Nothing is reached through a name at which there is no directory and no link. -/
lemma walk_beyond_isOpen (place : Place) (hplain : IsPlain name)
    (hopen : s.IsOpen (place ++ [name])) (hsteps : steps ≠ []) :
    s.walk links place (name :: steps) = .error .notFound ∨
      s.walk links place (name :: steps) = .error .notDirectory := by
  have hlong : ¬ name.utf8ByteSize > maxNameBytes := Nat.not_lt.mpr hplain.short
  rw [walk.eq_def]
  obtain hnone | ⟨contents, executable, hfile⟩ := hopen
  · exact .inl (by simp [hplain.ne_dot, hplain.ne_dots, hlong, hnone, hsteps])
  · exact .inr (by simp [hplain.ne_dot, hplain.ne_dots, hlong, hfile, hsteps])

/-- A path from the root through such a name leads nowhere. -/
lemma exists_error_of_find (habsolute : isAbsolute path = true) (hnames : names path = name :: steps)
    (hplain : IsPlain name) (hopen : s.IsOpen [name]) (hsteps : steps ≠ []) :
    ∃ cause, s.find path = .error cause ∧ cause ≠ .notExecutable := by
  unfold find follow startOf
  rw [habsolute, hnames, if_pos rfl]
  split_ifs
  · exact ⟨_, rfl, nofun⟩
  · exact ⟨_, rfl, nofun⟩
  · exact ⟨_, rfl, nofun⟩
  · obtain hwalk | hwalk := walk_beyond_isOpen [] hplain hopen hsteps
    · exact ⟨_, hwalk, nofun⟩
    · exact ⟨_, hwalk, nofun⟩

end Store

namespace Shell

variable {s : Store} {i : Inherited} {name : String} {program : Program}

/-! ### Programs by name -/

namespace Program

/-- The name of a program is the name of no directory, and a program of the system is no script. -/
lemma plain_of_named? (h : named? name = some program) :
    name.toList ≠ [] ∧ '/' ∉ name.toList ∧ ∀ interpreter arg, program ≠ .script interpreter arg := by
  unfold named? at h
  split at h
  case h_10 =>
    obtain ⟨u, hu, rfl⟩ := Option.map_eq_some_iff.mp h
    have hname : u.name = name := by simpa using List.find?_some hu
    have hall : ∀ u ∈ Utility.all, u.name.toList ≠ [] ∧ '/' ∉ u.name.toList := by decide
    rw [← hname]
    exact ⟨(hall u (List.mem_of_find?_eq_some hu)).1, (hall u (List.mem_of_find?_eq_some hu)).2, nofun⟩
  all_goals
    cases h
    exact ⟨by decide, by decide, nofun⟩

/-- The directories of the search path in which there are no programs of the system, in front of one
in which there are. -/
def frontDirectories : List String := ["/usr/local/sbin", "/usr/local/bin", "/usr/sbin"]

lemma front_cases {directory : String} (h : directory ∈ frontDirectories) :
    directory = "/usr/local/sbin" ∨ directory = "/usr/local/bin" ∨ directory = "/usr/sbin" := by
  simpa [frontDirectories] using h

lemma candidates_eq (name : String) :
    searchCandidates standardSearchPath.toList name =
      (frontDirectories ++ ["/usr/bin", "/sbin", "/bin"]).map (· ++ "/" ++ name) := by
  have hsplit : standardSearchPath.toList.splitOn ':' =
      (frontDirectories ++ ["/usr/bin", "/sbin", "/bin"]).map String.toList := by decide +kernel
  rw [searchCandidates, hsplit, List.map_map]
  refine List.map_congr_left fun directory hdirectory => ?_
  have hne : directory ≠ "" := by
    revert directory
    decide
  simp [hne]

lemma system?_of_usrBin (name : String) : system? ("/usr/bin" ++ "/" ++ name) = named? name := by
  have hlength : "/usr/bin/".length = 9 := by decide
  simp [system?, systemDirectories, hlength]

lemma system?_of_front {directory : String} (hdirectory : directory ∈ frontDirectories)
    (name : String) : system? (directory ++ "/" ++ name) = none := by
  obtain rfl | rfl | rfl := front_cases hdirectory <;> simp [system?, systemDirectories]

lemma names_of_front {directory : String} (hdirectory : directory ∈ frontDirectories)
    (hne : name.toList ≠ []) (hslash : '/' ∉ name.toList) :
    ∃ steps, steps ≠ [] ∧ Store.names (directory ++ "/" ++ name) = "usr" :: steps := by
  have hpath : (directory ++ "/" ++ name).toList = directory.toList ++ '/' :: name.toList := by simp
  obtain ⟨more, hmore⟩ : ∃ more, Store.parts directory.toList = "usr" :: more := by
    obtain rfl | rfl | rfl := front_cases hdirectory
    · exact ⟨["local", "sbin"], by decide +kernel⟩
    · exact ⟨["local", "bin"], by decide +kernel⟩
    · exact ⟨["sbin"], by decide +kernel⟩
  refine ⟨more ++ [name], by simp, ?_⟩
  rw [Store.names_eq_of_slash hpath hne hslash, hmore, String.ofList_toList, List.cons_append]

/-- In the directories in front nothing can be found. -/
lemma atPath_of_front (hopen : s.IsOpen ["usr"]) {directory : String}
    (hdirectory : directory ∈ frontDirectories) (hne : name.toList ≠ [])
    (hslash : '/' ∉ name.toList) :
    ∃ cause, atPath i s (directory ++ "/" ++ name) = .error cause ∧ cause ≠ .notExecutable := by
  have habsolute : Store.isAbsolute (directory ++ "/" ++ name) = true := by
    obtain rfl | rfl | rfl := front_cases hdirectory <;> simp [Store.isAbsolute]
  have hseen : seenFrom s i.here (directory ++ "/" ++ name) = directory ++ "/" ++ name := by
    simp [seenFrom, habsolute]
  have husr : Store.IsPlain "usr" :=
    ⟨by decide, by decide, by decide, by decide, by decide, by decide⟩
  obtain ⟨steps, hsteps, hnames⟩ := names_of_front hdirectory hne hslash
  obtain ⟨cause, hfind, hcause⟩ := Store.exists_error_of_find habsolute hnames husr hopen hsteps
  refine ⟨cause, ?_, hcause⟩
  rw [atPath, system?_of_front hdirectory, hseen]
  simp only [hfind]

/-- A program of the system is found by its name. -/
theorem find_of_named? (hpath : i.searchPath = standardSearchPath.toList)
    (hopen : s.IsOpen ["usr"]) (hnamed : named? name = some program) :
    find i s name = .ok (program, name) := by
  obtain ⟨hne, hslash, hscript⟩ := plain_of_named? hnamed
  have hfront : ∀ directory ∈ frontDirectories,
      ∃ cause, atPath i s (directory ++ "/" ++ name) = .error cause ∧ cause ≠ .notExecutable :=
    fun directory hdirectory => atPath_of_front hopen hdirectory hne hslash
  have hsystem : atPath i s ("/usr/bin" ++ "/" ++ name) = .ok program := by
    rw [atPath, system?_of_usrBin, hnamed]
  unfold find
  rw [if_neg (by simpa using hslash), if_neg (by simpa using hne), hpath, candidates_eq,
    List.map_append, List.map_append]
  dsimp only
  rw [List.find?_append, List.find?_eq_none.mpr]
  · simp only [List.map_cons, hsystem, Except.map, List.find?_cons, Option.none_or]
  · simp only [List.map_map, List.mem_map]
    rintro _ ⟨directory, hdirectory, rfl⟩
    obtain ⟨cause, hnone, hcause⟩ := hfront directory hdirectory
    simp only [Function.comp_apply, hnone, Except.map]
    cases cause <;> simp_all

end Program

/-! ### Echo -/

/-- The line that `echo` prints for some arguments. -/
def echoLine (args : List String) : String := " ".intercalate args ++ "\n"

/-- The program `echo` repeats the arguments: the first one is no option of it, and none has a NUL,
which no argument can have. -/
structure Repeatable (args : List String) : Prop where
  first : EchoStyle.read ⟨true, false⟩ args = (⟨true, false⟩, args)
  no_nul : ∀ arg ∈ args, '\x00' ∉ arg.toList

lemma echoProgram_eq {args : List String} (hargs : Repeatable args) (w : World)
    (hwiring : i.wiring = .standard) :
    echoProgram i args w =
      (0, { w with written := w.written.push (.out, bytesOf (echoLine args)) }) := by
  have hbytes : encode (" ".intercalate args).toList ++ [0x0a] = bytesOf (echoLine args) := by
    rw [echoLine, bytesOf_append]
    rfl
  have hsome : (bytesOf (echoLine args)).isEmpty = false := by
    rw [← hbytes]
    simp
  simp only [echoProgram, hargs.first, Bool.false_eq_true, if_false, Bool.and_true, if_true, hbytes,
    World.writeTo, hwiring, Wiring.channel?, Wiring.standard]
  simp [World.write, hsome]

/-- Without files in front of it, `echo` prints its arguments and leaves the files alone. -/
theorem programs_echo {args : List String} (hargs : Repeatable args) (hopen : s.IsOpen ["usr"]) :
    programs "echo" args s = .ok ⟨.code 0, [(.out, bytesOf (echoLine args))], s⟩ := by
  have hnul : ¬ ("echo" :: args).any (fun arg => arg.toList.contains '\x00') = true := by
    simpa using hargs.no_nul
  have hfind := Program.find_of_named? (i := standardInheritance s.cwd) rfl hopen
    (show Program.named? "echo" = some .echo from rfl)
  have hstart : start maxProcesses (standardInheritance s.cwd) "echo" args (.ofStore s) =
      .ok (.code 0, { World.ofStore s with written := #[(.out, bytesOf (echoLine args))] }) := by
    rw [maxProcesses, start, if_neg hnul, World.ofStore, hfind]
    exact congrArg Except.ok
      (congrArg (Program.run.finish) (echoProgram_eq hargs (.ofStore s) rfl))
  rw [programs, hstart]
  rfl

example : programs "echo" ["-np", "8", "idx_write"] .empty =
    .ok ⟨.code 0, [(.out, bytesOf "-np 8 idx_write\n")], .empty⟩ :=
  programs_echo ⟨by decide, by decide⟩ (.inl rfl)

/-- The command runs `echo` in place of a launcher, without options of a launcher. -/
structure Echoed (c : Command) : Prop where
  launcher : c.launcher = "echo"
  launcherArgs : c.launcherArgs = []
  executable : '\x00' ∉ c.executable.toList
  args : ∀ arg ∈ c.args, '\x00' ∉ arg.toList

/-- What stands in front of the process count is no option of `echo`. -/
lemma Echoed.repeatable {c : Command} (h : Echoed c) : Repeatable c.argv := by
  have hargv : c.argv = "-np" :: toString c.procs.toNat :: c.executable :: c.args := by
    simp [Command.argv, h.launcherArgs]
  have hprocs : '\x00' ∉ (toString c.procs.toNat).toList := by
    intro hmem
    rw [show (toString c.procs.toNat).toList = Nat.toDigits 10 _ from Nat.toList_repr] at hmem
    cases isDigit_of_mem_toDigits hmem
  rw [hargv]
  refine ⟨by simp [EchoStyle.read], ?_⟩
  simp only [List.forall_mem_cons]
  exact ⟨by decide, hprocs, h.executable, h.args⟩

/-! ### Launches -/

variable {log : Phase → String} {path : String} {requests : List Request} {made : List Launch}

/-- Programs that repeat their arguments, whatever their names are. -/
def repeaters : Programs := fun _ args s => .ok ⟨.code 0, [(.out, bytesOf (echoLine args))], s⟩

lemma isOpen_of_repeaters {place : Place} (hopen : s.IsOpen place) (history : Array Launch)
    (r : Request) :
    ((process repeaters log).answer history r.phase r.command s).store.IsOpen place := by
  simp only [process, repeaters]
  cases happend : s.append (log r.phase)
      (bytesOf (Ending.mk (.code 0) [(.out, bytesOf (echoLine r.command.argv))] s).text) with
  | error cause => exact hopen
  | ok t =>
    obtain ⟨written, executable, htarget, rfl⟩ := Store.modify_eq_ok happend
    exact (Store.isOpen_of_target? htarget).put hopen

/-- Launching `echo` is launching a program that repeats its arguments. -/
lemma launchAll_echo (hecho : ∀ r ∈ requests, Echoed r.command) {s : Session}
    (hopen : s.store.IsOpen ["usr"]) :
    (process programs log).launchAll requests s = (process repeaters log).launchAll requests s := by
  induction requests generalizing s with
  | nil => rfl
  | cons r rest ih =>
    obtain ⟨hr, hrest⟩ := List.forall_mem_cons.mp hecho
    have hanswer : (process programs log).answer s.launches r.phase r.command s.store =
        (process repeaters log).answer s.launches r.phase r.command s.store := by
      simp only [process, hr.launcher, programs_echo hr.repeatable hopen]
      rfl
    rw [launchAll, launchAll, Step.run_launch, Step.run_launch, hanswer]
    exact ih hrest (isOpen_of_repeaters hopen s.launches r)

lemma text_of_repeaters {history : Array Launch} {l : Launch} {output : Output}
    (h : ((process repeaters log).answer history l.phase l.command s).outcome = .ok output) :
    output.text = echoLine l.command.argv := by
  simp only [process, repeaters] at h
  split at h <;> cases h
  exact Ending.text_of_out ..

/-- Every output repeats the arguments that were launched. -/
lemma exists_launches_of_repeaters (log : Phase → String) (requests : List Request) (s : Session) :
    ∃ made, ((process repeaters log).launchAll requests s).launches.toList =
        s.launches.toList ++ made ∧
      ∀ l ∈ made, ∀ output, l.outcome = .ok output → output.text = echoLine l.command.argv := by
  induction requests generalizing s with
  | nil => exact ⟨[], (List.append_nil _).symm, List.forall_mem_nil _⟩
  | cons r rest ih =>
    obtain ⟨made, hmade, hmore⟩ := ih ((Step.launch (process repeaters log) r.phase r.command).run s).2
    rw [launchAll, hmade, Step.run_launch, Array.toList_push, List.append_assoc,
      List.singleton_append]
    refine ⟨_, rfl, List.forall_mem_cons.mpr ⟨fun output houtput => ?_, hmore⟩⟩
    exact text_of_repeaters houtput

/-- If all launches are answered, the log has the lines of all commands of its phase. -/
lemma loggedTo_of_answered (log : Phase → String) (path : String)
    (hall : ∀ l ∈ made, ∃ output, l.outcome = .ok output ∧ output.text = echoLine l.command.argv) :
    loggedTo log path made = ((made.map Launch.request).filter fun r => log r.phase = path).map
      fun r => echoLine r.command.argv := by
  induction made with
  | nil => rfl
  | cons l rest ih =>
    obtain ⟨⟨output, houtcome, htext⟩, hrest⟩ := List.forall_mem_cons.mp hall
    obtain ⟨phase, command, _⟩ := l
    cases houtcome
    rw [← List.singleton_append, loggedTo_append, loggedTo_of_ok, ih hrest, List.map_append,
      List.filter_append, List.map_append, htext]
    congr 1
    by_cases hphase : log phase = path <;> simp [Launch.request, hphase]

/-- With `echo` for a launcher, the log of a phase lists the arguments of the commands of the phase.
The log was empty, nothing is in front of `echo`, and no file gives trouble. -/
theorem log_of_echo {store : Store} {t : Session} (hecho : ∀ r ∈ requests, Echoed r.command)
    (hopen : store.IsOpen ["usr"]) (hlogs : store.LogsApart log path)
    (hempty : store.contents? path = some [] ∨
      store.contents? path = none ∧ ∃ r ∈ requests, log r.phase = path)
    (ht : (process programs log).launchAll requests (.start store) = t)
    (hanswered : ∀ l ∈ t.launches.toList, ∃ output, l.outcome = .ok output) :
    t.launches.toList.map Launch.request = requests ∧
      t.store.read path = .ok (bytesOf (String.join ((requests.filter fun r => log r.phase = path).map
        fun r => echoLine r.command.argv))) := by
  rw [launchAll_echo hecho hopen] at ht
  subst ht
  have hspare : SparesLog repeaters log path := by
    rintro name args s _ ⟨⟩
    exact ⟨rfl, id⟩
  obtain ⟨made, hmade, hrequests, happended⟩ :=
    launchAll_appends (s := .start store) hspare requests hlogs
  obtain ⟨made', hmade', htext⟩ := exists_launches_of_repeaters log requests (.start store)
  obtain rfl : made' = made := List.append_cancel_left (hmade'.symm.trans hmade)
  rw [show (Session.start store).launches.toList = [] from rfl, List.nil_append] at hmade
  rw [hmade] at hanswered ⊢
  have hlogged := loggedTo_of_answered log path fun l hl => by
    obtain ⟨output, houtput⟩ := hanswered l hl
    exact ⟨output, houtput, htext l hl output houtput⟩
  rw [hrequests] at hlogged
  rw [hlogged] at happended
  refine ⟨hrequests, happended.read_eq ?_⟩
  refine hempty.imp_right fun ⟨hmissing, r, hr, hphase⟩ => ⟨hmissing, ?_⟩
  simpa using ⟨r, hr, hphase⟩

end Shell

end TileBench
