import OrderCustody.KeySource.Basic
import OrderCustody.Proofs.Bytes.Text
import OrderCustody.Proofs.KeySource.Layout
import OrderCustody.Proofs.Trial

namespace OrderCustody

/-!
# A variable is as good as a file

A key may be taken out of an environment variable or read from a file, and with the same
text both give the same.  The two ways are different: a file is decoded on every load, a
variable once, and from then on its key is kept sealed and revealed on every load.
Whatever the variable held, it is gone afterwards, and nothing else is.
-/

/-! ## Environments -/

namespace Environment

variable (environment : Environment) {name other : String}

theorem get?_unset_self : (environment.unset name).get? name = none := by
  rw [get?, unset, List.find?_filter, Option.map_eq_none_iff, List.find?_eq_none]
  intro entry _ both
  obtain ⟨different, same⟩ := of_decide_eq_true both
  exact bne_iff_ne.mp different (beq_iff_eq.mp same)

theorem get?_unset_of_ne (different : other ≠ name) :
    (environment.unset name).get? other = environment.get? other := by
  rw [get?, unset, List.find?_filter]
  refine congrArg (Option.map Prod.snd) (congrArg (List.find? · environment) ?_)
  funext entry
  by_cases same : entry.1 = other
  · simp [same, different]
  · simp [same]

end Environment

namespace KeySource

/-! ## Taking a key -/

/-- What becomes of the text of a variable: a source with its key sealed, or the fault of
the text. -/
inductive Taking (name text : String) : Except Fault KeySource → Prop where
  | taken
      {key : Bytes}
      {sealedKey : Custody.SealedKey}
      (read : readKey text = .ok key)
      (revealing : sealedKey.reveal = .ok key) :
      Taking name text (.ok (.environment name sealedKey))
  | refused
      {fault : TextFault}
      (unread : readKey text = .error fault) :
      Taking name text (.error fault.toFault)

section Held

variable
  {environment : Environment}
  {name text : String}

theorem consume_cases
    (held : environment.get? name = some text)
    (draw : Custody.Draw) :
    Taking name text (consume draw environment name).1 := by
  unfold consume
  simp only [held]
  cases read : readKey text with
  | error fault => exact .refused read
  | ok key =>
      obtain ⟨sealedKey, sealing, revealing⟩ :=
        Custody.SealedKey.exists_ofMaterial_eq_ok draw (ne_nil_of_readKey read)
      simp only [Except.mapError, sealing, bind, Except.bind]
      exact .taken read revealing

theorem environment_consume
    (held : environment.get? name = some text)
    (draw : Custody.Draw) :
    (consume draw environment name).2 = environment.unset name := by
  unfold consume
  simp only [held]

end Held

theorem consume_of_unset
    {environment : Environment}
    {name : String}
    (unset : environment.get? name = none)
    (draw : Custody.Draw) :
    consume draw environment name = (.error (.unset name), environment) := by
  unfold consume
  simp only [unset]

theorem load_file
    {files : Files}
    {path text : String}
    (stored : files path = .ok (Bytes.ofText text)) :
    load files (.file path) = (readKey text).mapError TextFault.toFault := by
  simp only [load, readText, stored, bind, Except.bind, Bytes.toText?_ofText]

/--
A key source taken out of a variable agrees with a file of the same text.

It is made exactly if the file can be loaded, and every load of it, whatever has become of
the files since, gives the key that the file gives, which is never empty.  If one of the
two fails, the other fails for the same reason: the text is empty, or it is no hexadecimal
text; nothing ever fails for the sake of sealing or revealing.  In every case the variable
is unset afterwards, every other variable is as it was, and taking the key out again fails
because the variable is not set.
-/
theorem sources_agree
    (draw : Custody.Draw)
    {environment : Environment}
    {name path text : String}
    {files : Files}
    (held : environment.get? name = some text)
    (stored : files path = .ok (Bytes.ofText text)) :
    let taken := (consume draw environment name).1
    let left := (consume draw environment name).2
    let loaded := load files (.file path)
    ((∃ source, taken = .ok source) ↔ ∃ key, loaded = .ok key) ∧
      (∀ source,
        taken = .ok source →
        ∃ key, key ≠ [] ∧ loaded = .ok key ∧ ∀ later, source.load later = .ok key) ∧
      (∀ fault, taken = .error fault ↔ loaded = .error fault) ∧
      (∀ fault, taken = .error fault → fault = .empty ∨ fault = .notHex) ∧
      left.get? name = none ∧
      (∀ other, other ≠ name → left.get? other = environment.get? other) ∧
      ∀ again, consume again left name = (.error (.unset name), left) := by
  intro taken left loaded
  have taking : Taking name text taken := consume_cases held draw
  have gone : left = environment.unset name := environment_consume held draw
  have loading : loaded = (readKey text).mapError TextFault.toFault := load_file stored
  have unset : left.get? name = none := gone ▸ environment.get?_unset_self
  clear_value taken left loaded
  subst loading
  refine ⟨?_, ?_, ?_, ?_, unset, ?_, consume_of_unset unset⟩
  · cases taking with
    | taken read => exact ⟨fun _ => ⟨_, by rw [read]; rfl⟩, fun _ => ⟨_, rfl⟩⟩
    | refused unread =>
        rw [unread]
        exact ⟨nofun, nofun⟩
  · cases taking with
    | taken read revealing =>
        rintro _ ⟨⟩
        refine ⟨_, ne_nil_of_readKey read, by rw [read]; rfl, fun later => ?_⟩
        simp only [load, revealing, Except.mapError]
    | refused => exact nofun
  · cases taking with
    | taken read =>
        rw [read]
        exact fun _ => ⟨nofun, nofun⟩
    | refused unread =>
        simp only [unread, Except.mapError, Except.error.injEq, implies_true]
  · cases taking with
    | taken => exact nofun
    | @refused fault =>
        rintro _ ⟨⟩
        cases fault with
        | notHex => exact .inr rfl
        | empty => exact .inl rfl
  · intro other different
    rw [gone]
    exact environment.get?_unset_of_ne different

set_option maxRecDepth 10000 in
/-- A key with blanks around it, marked with a capital letter, in a variable between two
others. -/
theorem sources_agree_marked :
    let environment : Environment :=
      [("HOME", "/root"), ("KEY", " 0X0a0B\n"), ("PATH", "/bin")]
    let files : Files := fun _ => .ok (Bytes.ofText " 0X0a0B\n")
    environment.get? "KEY" = some " 0X0a0B\n" ∧
      files "key" = .ok (Bytes.ofText " 0X0a0B\n") ∧
      ∃ source,
        (consume Trial.draw environment "KEY").1 = .ok source ∧
          source.load (fun _ => .error .notFound) = .ok [10, 11] ∧
          (consume Trial.draw environment "KEY").2.get? "PATH" = some "/bin" := by
  intro environment files
  have held : environment.get? "KEY" = some " 0X0a0B\n" := by decide +kernel
  have stored : files "key" = .ok (Bytes.ofText " 0X0a0B\n") := rfl
  have loading : load files (.file "key") = .ok [10, 11] := by decide +kernel
  obtain ⟨made, loads, -, -, -, others, -⟩ := sources_agree Trial.draw held stored
  obtain ⟨source, taken⟩ := made.mpr ⟨_, loading⟩
  obtain ⟨key, -, loaded, later⟩ := loads source taken
  cases loading.symm.trans loaded
  refine ⟨held, stored, source, taken, later _, ?_⟩
  rw [others "PATH" (by decide)]
  decide +kernel

end KeySource

end OrderCustody
