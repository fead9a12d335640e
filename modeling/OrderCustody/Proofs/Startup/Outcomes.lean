import OrderCustody.Proofs.Audit.Writing
import OrderCustody.Proofs.Gateway.Starting
import OrderCustody.Proofs.Order.Grammar
import OrderCustody.Proofs.Secp256k1.Acceptance
import OrderCustody.Proofs.Trial
import OrderCustody.Startup.Basic

namespace OrderCustody

/-!
# A start serves with all it was told to, or not at all

The settings are checked once, and whatever is taken from them later is there if they have
passed.  From then on a start has three places to fail before it listens: the key source,
the file of the audit trail, and the first session.  Whichever fails, nothing has been
recorded and there is no gateway.  One that comes as far as serving holds the session it
was told to start, or none if it was told to start none.  That the session is recorded
does not make it so in the file: a device that fails stops no start.
-/

namespace Settings

/-! ## Settings that pass -/

/-- Settings with which nothing is wrong, and the limit and the exchange that they
name. -/
structure Valid (settings : Settings) (limit : Nat) (exchange : Address) : Prop where
  lasting : settings.sessionSeconds ≠ 0
  limited : Decimal.Denotes settings.valueLimit.toList limit
  named : Field.Account settings.exchange exchange
  oneSource : settings.keyFile = none ∨ settings.keyVariable = none

theorem defaultLimit_eq_ok_iff (settings : Settings) (limit : Nat) :
    settings.defaultLimit = .ok limit ↔ Decimal.Denotes settings.valueLimit.toList limit := by
  rw [defaultLimit, Field.decimal, ← Decimal.parse?_eq_some_iff]
  cases Decimal.parse? settings.valueLimit with
  | none =>
      constructor
      · intro read
        cases read
      · intro parsed
        cases parsed
  | some number => rw [Except.ok.injEq, Option.some.injEq]

theorem exchangeAddress_eq_ok_iff (settings : Settings) (exchange : Address) :
    settings.exchangeAddress = .ok exchange ↔ Field.Account settings.exchange exchange :=
  (Field.reads_address "EXCHANGE_ADDRESS" settings.exchange).ok_iff exchange

theorem oneSource_iff (settings : Settings) :
    (settings.keyFile.isSome && settings.keyVariable.isSome) = false ↔
      settings.keyFile = none ∨ settings.keyVariable = none := by
  rw [Bool.and_eq_false_iff, Option.isSome_eq_false_iff, Option.isSome_eq_false_iff,
    Option.isNone_iff_eq_none, Option.isNone_iff_eq_none]

/-- The checks are passed exactly by settings with which nothing is wrong. -/
theorem validate_eq_ok_iff (settings : Settings) :
    settings.validate = .ok () ↔ ∃ limit exchange, settings.Valid limit exchange := by
  constructor
  · intro accepted
    unfold validate at accepted
    dsimp only at accepted
    split at accepted
    · cases accepted
    · next lasting =>
        split at accepted
        · next limit limited =>
            split at accepted
            · cases accepted
            · next oneSource =>
                split at accepted
                · next exchange named =>
                    exact ⟨limit, exchange, lasting, (defaultLimit_eq_ok_iff _ _).mp limited,
                      (exchangeAddress_eq_ok_iff _ _).mp named,
                      (oneSource_iff _).mp (eq_false_of_ne_true oneSource)⟩
                · cases accepted
        · cases accepted
  · rintro ⟨limit, exchange, lasting, limited, named, oneSource⟩
    have limitRead := (defaultLimit_eq_ok_iff _ _).mpr limited
    have exchangeRead := (exchangeAddress_eq_ok_iff _ _).mpr named
    simp only [validate, lasting, limitRead, (oneSource_iff _).mpr oneSource, exchangeRead,
      Bool.false_eq_true, ↓reduceIte]
    rfl

example : ∃ limit exchange, Settings.default.Valid limit exchange :=
  (validate_eq_ok_iff Settings.default).mp (by decide +kernel)

/-! ## What is taken from them -/

section Valid

variable
  {settings : Settings}
  {limit : Nat}
  {exchange : Address}

theorem Valid.lifetime_pos (valid : settings.Valid limit exchange) : 0 < settings.lifetime := by
  have positive : 0 < settings.sessionSeconds.toNat := by
    rw [Nat.pos_iff_ne_zero]
    exact fun zero => valid.lasting (UInt64.toNat_inj.mp zero)
  exact Nat.mul_pos positive (by decide)

/-- The domain that orders are signed under at an exchange. -/
def domainAt (settings : Settings) (exchange : Address) : TypedData.Domain where
  name := settings.domainName
  version := settings.domainVersion
  chainId := settings.chainId
  verifyingContract := exchange

theorem Valid.domain_eq (valid : settings.Valid limit exchange) :
    settings.domain = .ok (settings.domainAt exchange) := by
  rw [domain, (exchangeAddress_eq_ok_iff _ _).mpr valid.named]
  rfl

theorem Valid.defaultLimit_eq (valid : settings.Valid limit exchange) :
    settings.defaultLimit = .ok limit :=
  (defaultLimit_eq_ok_iff _ _).mpr valid.limited

theorem Valid.desk_eq
    (valid : settings.Valid limit exchange)
    (signer : Signer)
    (trail : Audit.Trail) :
    settings.desk signer trail = .ok {
      domain := settings.domainAt exchange
      defaultLimit := limit
      keeper := .vacant signer settings.lifetime
      trail
    } := by
  rw [desk, valid.domain_eq, valid.defaultLimit_eq]
  rfl

end Valid

/-! ## The file of the audit trail -/

/-- A trail with a file attached, if there is to be one. -/
def equip (settings : Settings) (trail : Audit.Trail) : Audit.Trail :=
  match settings.auditLog with
  | some _ => trail.attach
  | none => trail

theorem events_equip (settings : Settings) (instanceId : String) :
    (settings.equip (.detached instanceId)).events = [] := by
  unfold equip
  cases settings.auditLog <;> rfl

/-- What is recorded first stands alone in the file. -/
theorem file_record_equip
    (settings : Settings)
    (instanceId : String)
    (timestamp : Calendar.Timestamp)
    (entry : Audit.Entry) :
    ((settings.equip (.detached instanceId)).record timestamp entry).file =
      settings.auditLog.map fun _ => [{ timestamp, instanceId, entry }] := by
  unfold equip
  cases settings.auditLog <;> rfl

end Settings

/-- A session that has just started is live, if sessions last at all. -/
theorem Session.Fresh.isActive
    {session : Session}
    {key : Bytes}
    {address : String}
    {now lifetime limit : Nat}
    {keeper : Keeper}
    (fresh : session.Fresh key address (now + lifetime) limit)
    (lasting : 0 < lifetime)
    (held : keeper.held = some session) :
    keeper.isActive now = true := by
  have live : ¬ now + lifetime ≤ now := by omega
  simp only [Keeper.isActive, held, Session.isExpired, fresh.expiresAt_eq, live, decide_false,
    Bool.not_false]

namespace Startup

/-! ## What can fail -/

/-- The files once the log of events is open, if it is to be opened. -/
def Place.opened (place : Place) (settings : Settings) : Except FileFault Files :=
  match settings.auditLog with
  | some path => place.openLog path
  | none => .ok place.files

/-- Why a key source starts no session. -/
inductive Unusable (signer : Signer) (source : KeySource) (files : Files) : Prop where
  | notLoaded
      {fault : KeySource.Fault}
      (loading : source.load files = .error fault)
  | rejected
      {key : Bytes}
      (loading : source.load files = .ok key)
      (rejected : signer.Rejects key)

/-- What can go wrong with settings that have passed. -/
inductive Hindered
    (signer : Signer)
    (place : Place)
    (settings : Settings)
    (environment : Environment) : Prop where
  | keySource
      {fault : KeySource.Fault}
      (taking : (settings.keySource place.sourceDraw environment).1 = .error fault)
  | auditLog
      {fault : FileFault}
      (opening : place.opened settings = .error fault)
  | activation
      {source : KeySource}
      {files : Files}
      (taking : (settings.keySource place.sourceDraw environment).1 = .ok (some source))
      (opening : place.opened settings = .ok files)
      (wanted : settings.activateOnStart = true)
      (unusable : Unusable signer source files)

/-! ## What can come of it -/

/-- What the trail says of the first session. -/
def activation (place : Place) (address : String) (limit : Nat) : Audit.Event where
  timestamp := place.clock.calendar
  instanceId := place.instanceId
  entry := {
    kind := .sessionActivated
    address := some address
    maxValueLimit := some (Decimal.text limit)
  }

/-- A gateway that starts to serve: with the session it was told to start and one event
in the trail, which is the only line of the file if the device under it takes what it is
offered; or with no session and nothing in the trail or the file. -/
inductive Started
    (signer : Signer)
    (place : Place)
    (settings : Settings)
    (environment : Environment)
    (gateway : Gateway) : Prop where
  | active
      {source : KeySource}
      {files : Files}
      {key : Bytes}
      {address : String}
      {limit : Nat}
      {session : Session}
      (taking : (settings.keySource place.sourceDraw environment).1 = .ok (some source))
      (opening : place.opened settings = .ok files)
      (wanted : settings.activateOnStart = true)
      (loading : source.load files = .ok key)
      (accepted : ¬ signer.Rejects key)
      (limited : settings.defaultLimit = .ok limit)
      (held : gateway.desk.keeper.held = some session)
      (fresh : session.Fresh key address (place.clock.elapsed + settings.lifetime) limit)
      (live : gateway.desk.keeper.isActive place.clock.elapsed = true)
      (recorded :
        gateway.desk.trail.file =
          settings.auditLog.map fun _ => [activation place address limit])
      (written :
        settings.auditLog.isSome →
        ∀ device : Audit.Device,
          device.Takes →
          gateway.desk.trail.stored device =
            Bytes.ofText ((activation place address limit).line ++ "\n"))
  | idle
      {source : Option KeySource}
      {files : Files}
      (taking : (settings.keySource place.sourceDraw environment).1 = .ok source)
      (opening : place.opened settings = .ok files)
      (unwanted : source = none ∨ settings.activateOnStart = false)
      (vacant : gateway.desk.keeper.held = none)
      (silent : gateway.desk.trail.events = [])
      (unwritten : ∀ device, gateway.desk.trail.stored device = [])

section Outcomes

variable
  {signer : Signer}
  {place : Place}
  {settings : Settings}
  {environment : Environment}

/-! ### Where nothing is wrong -/

section Unhindered

variable (unhindered : ¬ Hindered signer place settings environment)

include unhindered

theorem exists_taken :
    ∃ source, (settings.keySource place.sourceDraw environment).1 = .ok source := by
  cases taking : (settings.keySource place.sourceDraw environment).1 with
  | error fault => exact absurd (.keySource taking) unhindered
  | ok source => exact ⟨source, rfl⟩

theorem exists_opened : ∃ files, place.opened settings = .ok files := by
  cases opening : place.opened settings with
  | error fault => exact absurd (.auditLog opening) unhindered
  | ok files => exact ⟨files, rfl⟩

theorem exists_accepted
    {source : KeySource}
    {files : Files}
    (taking : (settings.keySource place.sourceDraw environment).1 = .ok (some source))
    (opening : place.opened settings = .ok files)
    (wanted : settings.activateOnStart = true) :
    ∃ key, source.load files = .ok key ∧ ¬ signer.Rejects key := by
  cases loading : source.load files with
  | error fault =>
      exact absurd (.activation taking opening wanted (.notLoaded loading)) unhindered
  | ok key =>
      refine ⟨key, rfl, fun rejected => unhindered ?_⟩
      exact .activation taking opening wanted (.rejected loading rejected)

end Unhindered

/-! ### Step by step -/

/-- What is prepared when the settings pass and the key source can be taken. -/
def Prepared.ofValid
    (signer : Signer)
    (place : Place)
    (settings : Settings)
    (source : Option KeySource)
    (limit : Nat)
    (exchange : Address) :
    Prepared where
  settings := settings
  keySource := source
  desk := {
    domain := settings.domainAt exchange
    defaultLimit := limit
    keeper := .vacant signer settings.lifetime
    trail := .detached place.instanceId
  }

theorem prepare_of_valid
    {limit : Nat}
    {exchange : Address}
    {source : Option KeySource}
    (valid : settings.Valid limit exchange)
    (taking : (settings.keySource place.sourceDraw environment).1 = .ok source) :
    prepare signer place.sourceDraw place.instanceId settings environment =
      .ok (.ofValid signer place settings source limit exchange) := by
  have accepted := (settings.validate_eq_ok_iff).mpr ⟨limit, exchange, valid⟩
  simp only [prepare, accepted, taking, valid.desk_eq]
  rfl

/-- Nothing is prepared when the settings do not pass or there is no key source to
take. -/
theorem prepare_of_failing
    (signer : Signer)
    (failing :
      settings.validate ≠ .ok () ∨
        ∃ fault, (settings.keySource place.sourceDraw environment).1 = .error fault) :
    ∃ log, prepare signer place.sourceDraw place.instanceId settings environment = .error log := by
  cases accepted : settings.validate with
  | error fault =>
      simp only [prepare, accepted]
      exact ⟨_, rfl⟩
  | ok =>
      obtain ⟨fault, taking⟩ := failing.resolve_left fun refused => refused accepted
      simp only [prepare, accepted, taking]
      exact ⟨_, rfl⟩

namespace Prepared

variable (prepared : Prepared)

/-- What is prepared, with the file of the trail attached if there is one. -/
def equipped : Prepared :=
  { prepared with
    desk := { prepared.desk with trail := prepared.settings.equip prepared.desk.trail } }

theorem start_of_opened
    {files : Files}
    (opening : place.opened prepared.settings = .ok files) :
    prepared.start place = prepared.equipped.serve place.clock place.sessionDraw files := by
  unfold Place.opened at opening
  unfold start equipped Settings.equip
  cases configured : prepared.settings.auditLog with
  | none =>
      rw [configured] at opening
      cases opening
      rfl
  | some path =>
      rw [configured] at opening
      simp only [opening]
      rfl

theorem start_of_unopened
    {fault : FileFault}
    (opening : place.opened prepared.settings = .error fault) :
    (prepared.start place).outcome = .stopped prepared.desk.trail := by
  unfold Place.opened at opening
  unfold start
  cases configured : prepared.settings.auditLog with
  | none =>
      rw [configured] at opening
      cases opening
  | some path =>
      rw [configured] at opening
      simp only [opening, stop]

theorem serve_of_unwanted
    (unwanted : prepared.keySource = none ∨ prepared.settings.activateOnStart = false)
    (clock : Clock)
    (draw : Custody.Draw)
    (files : Files) :
    (prepared.serve clock draw files).outcome =
      .serving prepared.settings.listen
        (prepared.settings.gateway prepared.keySource clock prepared.desk) := by
  cases configured : prepared.keySource with
  | none => simp only [serve, configured]
  | some source =>
      have unwanted := unwanted.resolve_left (configured ▸ Option.some_ne_none source)
      simp only [serve, configured, unwanted, Bool.false_eq_true, ↓reduceIte]

section Wanted

variable
  {source : KeySource}
  {files : Files}
  (clock : Clock)
  (draw : Custody.Draw)
  (configured : prepared.keySource = some source)
  (wanted : prepared.settings.activateOnStart = true)

include configured wanted

theorem serve_of_unusable
    (unusable : Unusable prepared.desk.keeper.signer source files) :
    (prepared.serve clock draw files).outcome = .stopped prepared.desk.trail := by
  have failing :
      ∃ refusal next,
        prepared.desk.activateFrom clock draw (source.load files) none =
            (.error refusal, next) ∧
          next.trail = prepared.desk.trail := by
    cases unusable with
    | notLoaded loading =>
        rw [loading]
        exact ⟨_, _, rfl, rfl⟩
    | rejected loading rejected =>
        obtain ⟨refusal, refused⟩ :=
          prepared.desk.activateFrom_of_rejected clock draw none rejected
        rw [loading]
        exact ⟨refusal, _, refused, rfl⟩
  obtain ⟨refusal, next, refused, same⟩ := failing
  simp only [serve, configured, wanted, ↓reduceIte, refused, stop, same]

theorem serve_of_accepted
    {key : Bytes}
    (loading : source.load files = .ok key)
    (accepted : ¬ prepared.desk.keeper.signer.Rejects key) :
    ∃ address session,
      session.Fresh key address (clock.elapsed + prepared.desk.keeper.lifetime)
          prepared.desk.defaultLimit ∧
        (prepared.serve clock draw files).outcome =
          .serving prepared.settings.listen
            (prepared.settings.gateway source clock
              ({ prepared.desk with
                  keeper := { prepared.desk.keeper with held := some session } }.record clock {
                kind := .sessionActivated
                address := some address
                maxValueLimit := some (Decimal.text prepared.desk.defaultLimit)
              })) := by
  have some : key ≠ [] := fun nothing => accepted (.empty nothing)
  cases derived : prepared.desk.keeper.signer.address key with
  | error fault => exact absurd (.underived derived) accepted
  | ok address =>
      obtain ⟨session, fresh, activated⟩ :=
        prepared.desk.activateFrom_of_derived clock draw none derived some
      rw [Option.getD_none] at fresh activated
      refine ⟨address, session, fresh, ?_⟩
      simp only [serve, configured, wanted, ↓reduceIte, loading, activated]

end Wanted

end Prepared

/-! ### The whole start -/

theorem startWith_of_valid
    {limit : Nat}
    {exchange : Address}
    {source : Option KeySource}
    (valid : settings.Valid limit exchange)
    (taking : (settings.keySource place.sourceDraw environment).1 = .ok source) :
    (startWith signer place settings environment).outcome =
      ((Prepared.ofValid signer place settings source limit exchange).start place).outcome := by
  simp only [startWith, prepare_of_valid valid taking]

theorem startWith_of_failing
    (failing :
      settings.validate ≠ .ok () ∨
        ∃ fault, (settings.keySource place.sourceDraw environment).1 = .error fault) :
    (startWith signer place settings environment).outcome =
      .stopped (.detached place.instanceId) := by
  obtain ⟨log, preparing⟩ := prepare_of_failing signer failing
  simp only [startWith, preparing, stop]

/-- Whatever fails, the start stops and nothing has been recorded. -/
theorem startWith_of_hindered
    (failing : settings.validate ≠ .ok () ∨ Hindered signer place settings environment) :
    ∃ trail,
      (startWith signer place settings environment).outcome = .stopped trail ∧
        trail.events = [] := by
  by_cases refused : settings.validate ≠ .ok ()
  · exact ⟨_, startWith_of_failing (.inl refused), rfl⟩
  have hindered := failing.resolve_left refused
  obtain ⟨limit, exchange, valid⟩ := settings.validate_eq_ok_iff.mp (not_not.mp refused)
  cases taken : (settings.keySource place.sourceDraw environment).1 with
  | error fault => exact ⟨_, startWith_of_failing (.inr ⟨fault, taken⟩), rfl⟩
  | ok source =>
      let prepared := Prepared.ofValid signer place settings source limit exchange
      rw [startWith_of_valid valid taken]
      cases hindered with
      | keySource failed => cases failed.symm.trans taken
      | auditLog opening => exact ⟨_, prepared.start_of_unopened opening, rfl⟩
      | activation same opening wanted unusable =>
          cases same.symm.trans taken
          rw [prepared.start_of_opened opening]
          exact ⟨_, prepared.equipped.serve_of_unusable _ _ rfl wanted unusable,
            settings.events_equip place.instanceId⟩

/-- If nothing fails, the gateway serves as it was told to. -/
theorem startWith_of_unhindered
    (accepted : settings.validate = .ok ())
    (unhindered : ¬ Hindered signer place settings environment) :
    ∃ gateway,
      (startWith signer place settings environment).outcome =
          .serving settings.listen gateway ∧
        Started signer place settings environment gateway := by
  obtain ⟨limit, exchange, valid⟩ := settings.validate_eq_ok_iff.mp accepted
  obtain ⟨source, taking⟩ := exists_taken unhindered
  obtain ⟨files, opening⟩ := exists_opened unhindered
  let prepared := Prepared.ofValid signer place settings source limit exchange
  rw [startWith_of_valid valid taking, prepared.start_of_opened opening]
  by_cases unwanted : source = none ∨ settings.activateOnStart = false
  · have silent := settings.events_equip place.instanceId
    exact ⟨_, prepared.equipped.serve_of_unwanted unwanted _ _ _,
      .idle taking opening unwanted rfl silent (Audit.Trail.stored_of_silent silent)⟩
  · obtain ⟨some, notUnwanted⟩ := not_or.mp unwanted
    obtain ⟨source, rfl⟩ := Option.ne_none_iff_exists'.mp some
    have wanted : settings.activateOnStart = true := eq_true_of_ne_false notUnwanted
    obtain ⟨key, loading, accepted⟩ := exists_accepted unhindered taking opening wanted
    obtain ⟨address, session, fresh, serving⟩ :=
      prepared.equipped.serve_of_accepted place.clock place.sessionDraw rfl wanted loading
        accepted
    have recorded :=
      settings.file_record_equip place.instanceId place.clock.calendar
        (activation place address limit).entry
    refine ⟨_, serving, .active taking opening wanted loading accepted valid.defaultLimit_eq rfl
      fresh (fresh.isActive valid.lifetime_pos rfl) recorded fun configured device takes => ?_⟩
    obtain ⟨path, configured⟩ := Option.isSome_iff_exists.mp configured
    rw [configured] at recorded
    exact Audit.Trail.stored_of_single recorded takes

end Outcomes

/--
A start fails closed.

The checks of the settings are passed exactly by settings whose sessions last, whose limit
is a decimal number, whose exchange is an address, and which name at most one key source;
and of such settings the limit and the domain are there when they are asked for.  So once
the settings have passed, only the key source, the file of the audit trail, the first
session and the place to listen at can stop a start.

Of any start with settings that can be read: if they do not pass, or the key source, the
file or the first session fails, it stops before there is a gateway, and nothing has been
recorded or written.  If nothing fails, the gateway serves.  With a key source and
activation at the start it then holds a live session, of the key that was loaded, with the
limit of the settings and nothing used, and one event that says so has been logged to the
file of the audit trail, if there is one: it is the only line of a file whose writes
succeed.  In every other case it holds no session, and nothing has been recorded or
written.  The program ends well exactly if nothing fails and the gateway can listen where
it should.
-/
theorem start_fails_closed :
    (∀ settings : Settings,
      (settings.validate = .ok () ↔ ∃ limit exchange, settings.Valid limit exchange) ∧
        ∀ limit exchange,
          settings.Valid limit exchange →
            settings.defaultLimit = .ok limit ∧
              settings.domain = .ok (settings.domainAt exchange) ∧
              0 < settings.lifetime ∧
              (settings.keyFile = none ∨ settings.keyVariable = none)) ∧
      ∀ (signer : Signer)
        (place : Place)
        (arguments : List String)
        (environment : Environment)
        (settings : Settings),
        Settings.read arguments (Dotenv.load place.files environment) = .ok settings →
        let given := Dotenv.load place.files environment
        let outcome := (launch signer place arguments environment).start.outcome
        (settings.validate ≠ .ok () ∨ Hindered signer place settings given →
          ∃ trail,
            outcome = .stopped trail ∧
              trail.events = [] ∧
              ∀ device, trail.stored device = []) ∧
        (settings.validate = .ok () ∧ ¬ Hindered signer place settings given →
          ∃ gateway,
            outcome = .serving settings.listen gateway ∧
              Started signer place settings given gateway) ∧
        ∀ listens clock,
          (outcome.ending listens clock).exitCode = 0 ↔
            settings.validate = .ok () ∧
              ¬ Hindered signer place settings given ∧
              listens = true := by
  constructor
  · intro settings
    refine ⟨settings.validate_eq_ok_iff, fun limit exchange valid => ?_⟩
    exact ⟨valid.defaultLimit_eq, valid.domain_eq, valid.lifetime_pos, valid.oneSource⟩
  · intro signer place arguments environment settings reading given outcome
    have same : outcome = (startWith signer place settings given).outcome := by
      simp only [outcome, launch, reading, given]
    rw [same]
    refine ⟨fun failing => ?_, fun ⟨accepted, unhindered⟩ =>
      startWith_of_unhindered accepted unhindered, fun listens clock => ?_⟩
    · obtain ⟨trail, stopped, silent⟩ := startWith_of_hindered failing
      exact ⟨trail, stopped, silent, Audit.Trail.stored_of_silent silent⟩
    by_cases failing : settings.validate ≠ .ok () ∨ Hindered signer place settings given
    · obtain ⟨trail, stopped, -⟩ := startWith_of_hindered failing
      rw [stopped]
      constructor
      · exact nofun
      · rintro ⟨accepted, unhindered, -⟩
        exact absurd failing (not_or.mpr ⟨not_not.mpr accepted, unhindered⟩)
    · obtain ⟨notRefused, unhindered⟩ := not_or.mp failing
      have accepted := not_not.mp notRefused
      obtain ⟨gateway, serving, -⟩ := startWith_of_unhindered accepted unhindered
      rw [serving]
      cases listens with
      | false =>
          constructor
          · exact nofun
          · rintro ⟨_, _, ⟨⟩⟩
      | true => exact ⟨fun _ => ⟨accepted, unhindered, rfl⟩, fun _ => rfl⟩

/-! ### One start with a key file and a file for the trail -/

/-- The files of a place where there is nothing but a key. -/
def keyFiles : Files :=
  fun path =>
    if path = "key" then
      .ok (Bytes.ofText "0000000000000000000000000000000000000000000000000000000000000001")
    else .error .notFound

/-- A place with a key where every file can be opened to append to it. -/
def keyPlace : Place where
  files := keyFiles
  openLog _ := .ok keyFiles
  clock := Trial.clock
  sourceDraw := Trial.draw
  sessionDraw := Trial.draw
  instanceId := "desk"

/-- A command line that names the key and a file for the trail. -/
def keyArguments : List String :=
  ["--key-file", "key", "--audit-log", "audit"]

/-- The settings of that command line. -/
def keySettings : Settings :=
  { Settings.default with keyFile := some "key", auditLog := some "audit" }

theorem read_keyArguments :
    Settings.read keyArguments (Dotenv.load keyFiles []) = .ok keySettings := by
  decide +kernel

theorem unhindered_keyPlace :
    keySettings.validate = .ok () ∧
      ¬ Hindered Secp256k1.signer keyPlace keySettings (Dotenv.load keyFiles []) := by
  have loaded : (KeySource.file "key").load keyFiles = .ok (Bytes.ofNat 32 1) := by
    decide +kernel
  have isKey : Secp256k1.IsKey (Bytes.ofNat 32 1) := by
    constructor <;> decide +kernel
  refine ⟨by decide +kernel, fun hindered => ?_⟩
  cases hindered with
  | keySource taking => cases taking
  | auditLog opening => cases opening
  | activation taking opening wanted unusable =>
      cases taking
      cases opening
      cases unusable with
      | notLoaded loading => cases loading.symm.trans loaded
      | rejected loading rejected =>
          cases loading.symm.trans loaded
          cases rejected with
          | empty nothing => cases nothing
          | underived derived =>
              obtain ⟨address, addressed⟩ := (Secp256k1.exists_address_iff _).mpr isKey
              cases derived.symm.trans addressed

/-- Whatever serves there has a live session, and one line in the file of a device that takes
what it is offered. -/
theorem Started.of_keyPlace
    {gateway : Gateway}
    (started :
      Started Secp256k1.signer keyPlace keySettings (Dotenv.load keyFiles []) gateway) :
    gateway.desk.keeper.isActive keyPlace.clock.elapsed = true ∧
      ∃ address,
        ∀ device : Audit.Device,
          device.Takes →
          gateway.desk.trail.stored device =
            Bytes.ofText ((activation keyPlace address 1000000000).line ++ "\n") := by
  cases started with
  | active taking opening wanted loading accepted limited held fresh live recorded written =>
      have limit : keySettings.defaultLimit = .ok 1000000000 := by decide +kernel
      cases limited.symm.trans limit
      exact ⟨live, _, written rfl⟩
  | idle taking opening unwanted =>
      cases taking
      rcases unwanted with none | notWanted
      · cases none
      · cases notWanted

/-- The start serves with a live session, and on a device that takes one byte at a time
one line is in the file. -/
theorem start_fails_closed_keyPlace :
    ∃ gateway address,
      Settings.read keyArguments (Dotenv.load keyFiles []) = .ok keySettings ∧
        (launch Secp256k1.signer keyPlace keyArguments []).start.outcome =
          .serving keySettings.listen gateway ∧
        gateway.desk.keeper.isActive keyPlace.clock.elapsed = true ∧
        gateway.desk.trail.stored (fun _ => 1) =
          Bytes.ofText ((activation keyPlace address 1000000000).line ++ "\n") := by
  obtain ⟨-, serves, -⟩ :=
    start_fails_closed.2 Secp256k1.signer keyPlace keyArguments [] keySettings read_keyArguments
  obtain ⟨gateway, serving, started⟩ := serves unhindered_keyPlace
  obtain ⟨live, address, written⟩ := started.of_keyPlace
  exact ⟨gateway, address, read_keyArguments, serving, live,
    written (fun _ => 1) fun _ => Nat.one_pos⟩

/-- On a device that fails at every call the same start serves with a live session, and the
file stays empty. -/
theorem serves_unwritten_on_full_device :
    ∃ gateway,
      (launch Secp256k1.signer keyPlace keyArguments []).start.outcome =
          .serving keySettings.listen gateway ∧
        keySettings.auditLog = some "audit" ∧
        gateway.desk.keeper.isActive keyPlace.clock.elapsed = true ∧
        gateway.desk.trail.stored .full = [] := by
  obtain ⟨accepted, unhindered⟩ := unhindered_keyPlace
  obtain ⟨gateway, serving, started⟩ := startWith_of_unhindered accepted unhindered
  have same :
      (launch Secp256k1.signer keyPlace keyArguments []).start.outcome =
        .serving keySettings.listen gateway := by
    rw [← serving, launch]
    simp only [keyPlace, read_keyArguments]
  exact ⟨gateway, same, rfl, started.of_keyPlace.1, gateway.desk.trail.stored_full⟩

end Startup

end OrderCustody
