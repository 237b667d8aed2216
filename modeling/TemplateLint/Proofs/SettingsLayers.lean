import TemplateLint.Proofs.JobSettings
import TemplateLint.Proofs.SettingsInForce

/-!
# Layers of settings

Settings come in layers: the standard ones, those of the settings file, those that the editor
brought last, and those that it gives for one document when it is asked.  The first three are kept
by the server, each in its own way, and after every run its settings are those of the layers that
have come.
Main exports: `Members.setting?`, `Settings.beneath`, `Layers`, `Server.layersAfter`,
`Server.LaidOut`, `Server.course_laidOut`.
-/

namespace TemplateLint

/-! ## Values in objects -/

namespace Members

/-- The last value under a key. -/
def last? (key : String) (members : Members) : Option Json :=
  get? key members.reverse

theorem get?_append (key : String) (one two : Members) :
    get? key (one ++ two) = (get? key one).or (get? key two) := by
  induction one with
  | nil => rfl
  | cons pair rest inductionHypothesis =>
      obtain ⟨name, value⟩ := pair
      by_cases same : name = key
      · simp [get?, same]
      · simpa [get?, same] using inductionHypothesis

/-- Of the values laid over others the last one counts. -/
theorem get?_beneathlay (key : String) (lower upper : Members) :
    get? key (overlay lower upper) = (last? key upper).or (get? key lower) := by
  induction upper generalizing lower with
  | nil => rfl
  | cons pair rest inductionHypothesis =>
      obtain ⟨name, value⟩ := pair
      have step : overlay lower ((name, value) :: rest) = overlay (insert name value lower) rest :=
        rfl
      rw [step, inductionHypothesis, get?_insert, last?, last?, List.reverse_cons, get?_append,
        Option.or_assoc]
      by_cases same : key = name
      · subst same
        simp [get?]
      · simp [get?, same, Ne.symm same]

theorem get?_erase (key name : String) (members : Members) :
    get? key (erase name members) = if key = name then none else get? key members := by
  induction members with
  | nil => simp [erase]
  | cons pair rest inductionHypothesis =>
      obtain ⟨first, value⟩ := pair
      rw [erase] at inductionHypothesis ⊢
      by_cases gone : first = name
      · by_cases same : key = name
        · simpa [gone, same] using inductionHypothesis
        · simpa [gone, same, get?, Ne.symm same] using inductionHypothesis
      · by_cases here : first = key
        · subst here
          simp [gone, get?]
        · simpa [gone, here, get?] using inductionHypothesis

/-- The value that an object brings for a key.  When it has an object under the name of the section,
that one brings the value; otherwise it does so itself, but not for that name. -/
def setting? (key : String) (members : Members) : Option Json :=
  match get? "djlint" members with
  | some (.object inner) => last? key inner
  | _ => if key = "djlint" then none else last? key members

theorem last?_ofMembers (key : String) (members : Members) :
    last? key (Settings.ofMembers members).values = setting? key members := by
  unfold setting?
  split
  · next inner within => rw [ofMembers_nested within]
  · next plain =>
      rw [ofMembers_flat plain, last?, erase, ← List.filter_reverse]
      exact get?_erase key "djlint" members.reverse

end Members

namespace Settings

/-- Settings with those of an object over them, if there is one. -/
def beneath (lower : Settings) (layer : Option Members) : Settings :=
  match layer with
  | some members => lower.merged (.ofMembers members)
  | none => lower

theorem get?_beneath (lower : Settings) (layer : Option Members) (key : String) :
    (lower.beneath layer).get? key = (layer.bind (Members.setting? key)).or (lower.get? key) := by
  cases layer with
  | none => rfl
  | some members =>
      rw [beneath, get?, merged, Members.get?_beneathlay, Members.last?_ofMembers]
      rfl

end Settings

/-! ## Layers -/

/-- What has come so far that settings are taken from. -/
structure Layers where
  /-- The settings file, as it was read when the server began. -/
  file : Option Members
  /-- What the editor brought last, when the server began or later. -/
  client : Option Members
  /-- The editor can be asked for settings. -/
  asks : Bool

namespace Layers

def nothing : Layers := ⟨none, none, false⟩

/-- The value of a key in the first layer that has it, an answer of the editor being the first. -/
def value? (layers : Layers) (answer : Option Members) (key : String) : Option Json :=
  ([answer, layers.client, layers.file].findSome? fun layer =>
    layer.bind (Members.setting? key)).or (Settings.standard.get? key)

/-- The same, while a choice of the user may keep an error from being shown. -/
def effective? (layers : Layers) (hidden : Bool) (answer : Option Members) (key : String) :
    Option Json :=
  if hidden = true ∧ key = "showInstallError" then some (.bool false)
  else layers.value? answer key

/-- The object in a settings file: the file that was named when the server was started, or the first
that one of the folders leads to.  What cannot be read brings nothing. -/
def ofFile? (configFile : Option Path) (folders : List Path) (disk : Disk) : Option Members := do
  let file ← configFile.or (folders.findSome? (Settings.discover? disk))
  let text ← (disk.readText file).toOption
  Toml.read? text

/-- The layers after one more round.  A server that begins takes in what it is given; one that
serves takes in what is pushed, if that is an object. -/
def next (layers : Layers) (server : Server) (round : Round) : Layers :=
  match server.phase, round.event.beginning? with
  | .fresh, some params =>
      { file := ofFile? server.configFile (initialFolders params) round.disk
        client := params.options.bind Json.members?
        asks := params.configuration }
  | .ready, _ =>
      { layers with client := (round.event.configuration?.bind Json.members?).or layers.client }
  | _, _ => layers

end Layers

/-- The layers after some rounds of a server. -/
def Server.layersAfter (server : Server) (rounds : List Round) : Layers :=
  (rounds.foldl (fun story round => ((story.1.turnIn round).server, story.2.next story.1 round))
    (server, .nothing)).2

/-- The settings of a server are those of the layers. -/
structure Server.LaidOut (server : Server) (layers : Layers) : Prop where
  base : server.base = Settings.standard.beneath layers.file
  client : server.client = layers.client.elim .empty .ofMembers
  asks : server.asksSettings = layers.asks
  idle : server.phase = .fresh → layers = .nothing

namespace Server

variable {server : Server} {history : List Deed} {layers : Layers}

theorem layersAfter_concat (server : Server) (rounds : List Round) (last : Round) :
    server.layersAfter (rounds ++ [last]) =
      (server.layersAfter rounds).next (server.course rounds).1 last := by
  have same (rounds : List Round) : (rounds.foldl (fun story round =>
      ((story.1.turnIn round).server, story.2.next story.1 round))
      (server, Layers.nothing)).1 = (server.course rounds).1 := by
    induction rounds using List.reverseRecOn with
    | nil => rfl
    | append_singleton rounds last inductionHypothesis =>
        rw [List.foldl_append, course_concat, ← inductionHypothesis]
        rfl
  rw [layersAfter, List.foldl_append, ← same rounds]
  rfl

theorem LaidOut.settings (laid : server.LaidOut layers) :
    server.settings = (Settings.standard.beneath layers.file).beneath layers.client := by
  rw [Server.settings, laid.base, laid.client]
  cases layers.client with
  | none => rfl
  | some members => rfl

end Server

/-! ## One turn -/

namespace Turn

variable {turn : Turn} {event : Event} {params : Params.Beginning} {known : Known} {number : Nat}

/-- A message is counted. -/
def counted (turn : Turn) : Turn :=
  turn.update fun server => { server with messages := server.messages + 1 }

/-- A server that is asked to begin, and has nothing to do yet, begins. -/
theorem step_beginning (eager : Bool) (begins : event.beginning? = some params)
    (fresh : turn.server.phase = .fresh)
    (idle : ∀ request, turn.server.isPending request = false) :
    ∃ id, turn.step event eager = turn.counted.beginServing id params := by
  unfold Event.beginning? at begins
  split at begins
  · next message =>
      obtain ⟨method, id, given⟩ := message
      split at begins
      · next named =>
          obtain ⟨rfl, named⟩ := named
          obtain ⟨id, rfl⟩ := Option.isSome_iff_exists.mp named
          have received : turn.receiveMessage ⟨"initialize", some id, given⟩ =
              turn.counted.receiveBeginning ⟨"initialize", some id, given⟩ := rfl
          have starts : turn.counted.server.phase = .fresh := fresh
          have free : turn.counted.server.isPending id = false := idle id
          refine ⟨id, ?_⟩
          rw [step, receive, if_neg (by simp [fresh]), received, receiveBeginning, if_pos starts]
          simp only [request, free]
          rw [show given.bind Params.beginning? = some params from begins]
          rfl
      · cases begins
  · cases begins

/-- The settings file comes over the standard settings. -/
theorem loadSettings_server (turn : Turn) :
    turn.loadSettings.server =
      { turn.server with
        base := turn.server.base.beneath
          (Layers.ofFile? turn.server.configFile turn.server.folders turn.disk) } := by
  unfold loadSettings Layers.ofFile?
  rw [settingsFile?]
  generalize turn.server.configFile.or
    (turn.server.folders.findSome? (Settings.discover? turn.disk)) = found
  cases found with
  | none => rfl
  | some file =>
      simp only [Settings.load, Option.bind_eq_bind, Option.bind_some]
      cases turn.disk.readText file with
      | error reason =>
          simp only [tell_server]
          rfl
      | ok text =>
          simp only [Except.toOption, Option.bind_some]
          cases Toml.read? text with
          | none =>
              simp only [tell_server]
              rfl
          | some members => rfl

theorem beginServing_server (turn : Turn) (id : RpcId) (params : Params.Beginning) :
    (turn.beginServing id params).server =
      { turn.server with
        asksSettings := params.configuration
        folders := initialFolders params
        client := (params.options.bind Settings.ofJson?).getD turn.server.client
        base := turn.server.base.beneath
          (Layers.ofFile? turn.server.configFile (initialFolders params) turn.disk)
        phase := .ready } := by
  simp [beginServing, reply, emit, note, update, loadSettings_server]

/-- When settings are pushed to a server that serves, the lints that follow leave its settings
alone. -/
theorem heedConfigured_lasts {origin : Nat} {value : Json} {client : Settings}
    (taken : pushed? turn.server.client value = some client) :
    Lasts (turn.update fun server => { server with client, lastError := none })
      (turn.heedConfigured origin value) := by
  unfold heedConfigured
  rw [taken]
  exact (lintAll_steady _ _ _).lasts

end Turn

namespace Server

variable {server : Server} {history : List Deed} {layers : Layers}

theorem LaidOut.of_lasts {turn next : Turn} (laid : turn.server.LaidOut layers)
    (lasts : turn.Lasts next) : next.server.LaidOut layers where
  base := lasts.base.trans laid.base
  client := lasts.client.trans laid.client
  asks := lasts.asksSettings.trans laid.asks
  idle := fun fresh => laid.idle (Classical.not_not.mp fun serves => lasts.serves serves fresh)

/-- Nothing comes in a round in which the server does not begin and is pushed no object. -/
theorem next_eq_self {round : Round} (idle : server.phase = .fresh → round.event.beginning? = none)
    (unpushed : server.phase = .ready → round.event.configuration?.bind Json.members? = none) :
    layers.next server round = layers := by
  unfold Layers.next
  split
  · next params fresh begins =>
      rw [idle fresh] at begins
      cases begins
  · next ready =>
      rw [unpushed ready]
      rfl
  · rfl

/-- The order of the documents does not matter to the settings. -/
theorem LaidOut.arranged (laid : server.LaidOut layers) (rank : Uri → Nat) :
    (server.arranged rank).LaidOut layers :=
  ⟨laid.base, laid.client, laid.asks, laid.idle⟩

/-- What is no object brings no settings. -/
theorem ofJson?_getD (options : Option Json) :
    (options.bind Settings.ofJson?).getD .empty =
      (options.bind Json.members?).elim .empty .ofMembers := by
  cases options with
  | none => rfl
  | some value => cases value <;> rfl

/-- A server that begins takes in the settings file and what the editor brings. -/
theorem LaidOut.beginServing {turn : Turn} (laid : turn.server.LaidOut .nothing) (id : RpcId)
    (params : Params.Beginning) :
    (turn.beginServing id params).server.LaidOut
      { file := Layers.ofFile? turn.server.configFile (initialFolders params) turn.disk
        client := params.options.bind Json.members?
        asks := params.configuration } := by
  have empty : turn.server.client = .empty := laid.client
  have standard : turn.server.base = Settings.standard := laid.base
  rw [Turn.beginServing_server, standard, empty, ofJson?_getD]
  exact ⟨rfl, rfl, rfl, nofun⟩

/-- A server that serves takes in an object that is pushed, and nothing else. -/
theorem LaidOut.heedConfigured {turn : Turn} (laid : turn.server.LaidOut layers)
    (ready : turn.server.phase = .ready) (origin : Nat) (value : Json) :
    (turn.heedConfigured origin value).server.LaidOut
      { layers with client := (Json.members? value).or layers.client } := by
  cases value with
  | null =>
      have same : (turn.update fun server =>
          { server with client := turn.server.client, lastError := none }).server.LaidOut layers :=
        ⟨laid.base, laid.client, laid.asks, laid.idle⟩
      exact same.of_lasts (Turn.heedConfigured_lasts rfl)
  | object members =>
      have taken : (turn.update fun server =>
          { server with client := .ofMembers members, lastError := none }).server.LaidOut
            { layers with client := some members } :=
        ⟨laid.base, rfl, laid.asks, fun fresh => by cases fresh.symm.trans ready⟩
      exact taken.of_lasts (Turn.heedConfigured_lasts rfl)
  | _ => exact laid

theorem beginning?_of_configuration? {event : Event} {value : Json}
    (pushed : event.configuration? = some value) : event.beginning? = none := by
  unfold Event.configuration? at pushed
  split at pushed
  · next message =>
      split at pushed
      · next known => simp [Event.beginning?, known.1]
      · cases pushed
  · cases pushed

/-- After every turn the settings are those of the layers that have come. -/
theorem turnIn_laidOut (sound : Sound server history) (laid : server.LaidOut layers)
    (round : Round) : (server.turnIn round).server.LaidOut (layers.next server round) := by
  have starts := laid.arranged round.rank
  rw [turnIn, turnOn, step]
  generalize turn? : Turn.mk (server.arranged round.rank) round.disk [] = turn
  have phase : turn.server.phase = server.phase := by rw [← turn?]; rfl
  have here : turn.server.LaidOut layers := by rw [← turn?]; exact starts
  have counted : turn.counted.server.LaidOut layers :=
    ⟨here.base, here.client, here.asks, here.idle⟩
  cases pushed : round.event.configuration? with
  | some value =>
      have unbegun := beginning?_of_configuration? pushed
      rw [Turn.step_configuration round.eager pushed]
      by_cases ready : server.phase = .ready
      · have next : layers.next server round =
            { layers with client := (Json.members? value).or layers.client } := by
          simp [Layers.next, ready, pushed]
        rw [next, if_neg (by simp [phase, ready]), if_pos (by rw [phase, ready])]
        exact counted.heedConfigured (phase.trans ready) _ value
      · rw [next_eq_self (fun _ => unbegun) fun serves => absurd serves ready]
        split
        · exact here
        · rw [if_neg (by rwa [phase])]
          exact counted
  | none =>
      by_cases begins : server.phase = .fresh ∧ ∃ params, round.event.beginning? = some params
      · obtain ⟨fresh, params, begins⟩ := begins
        have next : layers.next server round =
            { file := Layers.ofFile? server.configFile (initialFolders params) round.disk
              client := params.options.bind Json.members?
              asks := params.configuration } := by
          simp [Layers.next, fresh, begins]
        have idle : ∀ request, turn.server.isPending request = false := by
          rw [← turn?]
          exact sound.unasked fresh
        obtain ⟨id, same⟩ := Turn.step_beginning round.eager begins (phase.trans fresh) idle
        rw [laid.idle fresh] at counted
        have begun := counted.beginServing id params
        rw [next, same]
        rw [← turn?] at begun ⊢
        exact begun
      · have idle (fresh : server.phase = .fresh) : round.event.beginning? = none := by
          rw [Option.eq_none_iff_forall_ne_some]
          exact fun params given => begins ⟨fresh, params, given⟩
        rw [next_eq_self idle fun _ => by rw [pushed]; rfl]
        exact here.of_lasts
          (Turn.step_lasts turn round.event round.eager (fun fresh => idle (phase.symm.trans fresh))
            pushed)

theorem start_laidOut (environ : Variables) (configFile : Option Path) (venv : Path)
    (store : Store) : (start environ configFile venv store).LaidOut .nothing :=
  ⟨rfl, rfl, rfl, fun _ => rfl⟩

/-- After every course the settings are those of the layers that have come. -/
theorem course_laidOut (sound : Sound server []) (laid : server.LaidOut .nothing)
    (rounds : List Round) : (server.course rounds).1.LaidOut (server.layersAfter rounds) := by
  induction rounds using List.reverseRecOn with
  | nil => exact laid
  | append_singleton rounds last inductionHypothesis =>
      have before : Sound (server.course rounds).1 (server.course rounds).2 :=
        course_sound sound rounds
      rw [course_concat, layersAfter_concat]
      exact turnIn_laidOut before inductionHypothesis last

end Server

end TemplateLint
