import Keyring.Proofs.Service.Endings

/-!
# A password is replaced once

Options that ask for a random password are not served: once the password is replaced, the options in
force are those of the configuration that is handed back, which asks for no other.

* `Settled` : what is served, if anything is, asks for no random password;
* `Command.settled_run` : no command changes that, whatever the collaborators answer;
* `Reached.settled` : so it holds in every state that commands lead to.
-/

namespace Keyring.Service

open Operation

variable {W : Type} {c : Collaborators W}

/-- What is served, if anything is, asks for no other password. -/
def Settled (st : State) : Prop := ∀ store, st = .loaded store → store.options.randomize = false

theorem Settled.of_randomize {store : LoadedStore} (h : store.options.randomize = false) :
    Settled (.loaded store) :=
  State.forall_loaded h

theorem randomize_settled (o : Config.Options) (container : Container) (password : Password) :
    (randomize c o container password).Returns fun store => store.options.randomize = false := by
  unfold randomize
  split
  · refine .bind_any fun new => .bind_any fun secret => .bind_any fun reprotected =>
      .bind_any fun _ => .bind_any fun _ => ?_
    exact .bind (.lift fun o' ho' => Config.Options.randomize_of_withPassword ho')
      fun o' ho' => .pure ho'
  · rename_i ho
    exact .pure (by simpa using ho)

theorem load_settled (o : Config.Options) :
    (load c o).Returns fun store => store.options.randomize = false :=
  .bind_any fun _ => .bind_any fun _ => .bind (randomize_settled o _ _) fun _ h =>
    .bind_any fun _ => .pure h

theorem change_settled (current : LoadedStore) (o : Config.Options) :
    (change c current o).Returns fun store => store.options.randomize = false := by
  refine .bind_any fun password => .bind_any fun ⟨container, old⟩ => ?_
  cases old with
  | none => exact randomize_settled o container password
  | some old =>
    exact .tryCatch (randomize_settled o container password) fun e => .bind_any fun _ => .throw _

/-- The steps of a command leave no password to be replaced, in any session. -/
theorem settled_endings (command : Command) {st : State} (hst : Settled st) (s : Session W) :
    Endings c Anyhow (fun _ _ => True) command st s (fun st' _ => Settled st') fun _ => True where
  look _ _ := ⟨hst, trivial⟩
  closed _ _ _ hstore := by cases hstore
  decrypt _ _ := (Act.Ends.of_forall _).imp (fun _ _ _ => ⟨trivial, trivial⟩) fun _ _ => trivial
  load o _ _ := (Act.Ends.of_returns (load_settled o)).imp (fun _ _ h => .of_randomize h) fun _ h => h
  change current o _ _ :=
    (Act.Ends.of_returns (change_settled current o)).imp (fun _ _ h => .of_randomize h) fun _ h => h
  commits store container password t hstore _ _ _ := .of_forall fun r _ _ _ => by
    cases r with
    | ok _ => exact .of_randomize (hst store hstore)
    | error _ => exact ⟨hstore.symm, trivial⟩

/-- **No command leaves a password to be replaced.** -/
theorem Command.settled_run (command : Command) {st : State} (hst : Settled st) (s : Session W) :
    Settled (command.run c st s).1.2 := by
  rcases (settled_endings (c := c) command hst s).run_ends.good_or_bad with h | ⟨-, hsame, -⟩
  · exact h
  · rwa [hsame]

/-- The states that commands lead to, called in any order and in any sessions. -/
inductive Reached (c : Collaborators W) : State → Prop where
  | start : Reached c .uninitialized
  | call {st : State} (command : Command) (s : Session W) (h : Reached c st) :
      Reached c (command.run c st s).1.2

theorem Reached.settled {st : State} (h : Reached c st) : Settled st := by
  induction h with
  | start => exact fun _ hst => by cases hst
  | call command s _ ih => exact command.settled_run ih s

end Keyring.Service
