import Keyring.Service.Basic

/-!
# Operations of the service

What callers may ask of the service: to start, change and end serving (`activate`, `reconfigure`,
`close`), to look at the container (`store`, `entry?`, `entries`, `aliases`, `keyManagers`, `request`)
and to change it (`setEntry`, `deleteEntry`, `createKeyPair`).
-/

namespace Keyring.Service

variable {W : Type} (c : Collaborators W)

/-! ### Starting and ending -/

/-- Goes over to new options, unless they mean the same as those in force. -/
def changeTo (o : Config.Options) : Operation W Unit := do
  let current ← loadedStore
  if current.options.same o then perform (Act.report .debug "keystore configuration unchanged" [])
  else setState (.loaded (← perform (change c current o)))

/-- Starts to serve the container that a configuration names; if one is served already, applies the
configuration to that. -/
def activate (properties : Option Config.Properties) : Operation W Unit := do
  let o ← Config.Options.resolve properties
  match ← state with
  | .closed => throw .notInitialized
  | .loaded _ => changeTo c o
  | .uninitialized => setState (.loaded (← perform (load c o)))

/-- Applies a configuration to the container that is served. -/
def reconfigure (properties : Option Config.Properties) : Operation W Unit := do
  let o ← Config.Options.resolve properties
  changeTo c o

/-- Ends serving for good. -/
def close : Operation W Unit := do
  if (← state).isActive then perform (Act.report .info "keystore service closed" [])
  setState .closed

/-! ### Looking -/

/-- The container. -/
def store : Operation W Container := do return (← loadedStore).container

/-- The aliases in order. -/
def aliases : Operation W (List String) := do return (← loadedStore).container.aliases

/-- The entry under an alias, if there is one; there is none under the empty alias. -/
def entry? (name : Option String) : Operation W (Option Entry) := do
  let name ← required name noAlias
  let s ← loadedStore
  if name.isEmpty then return none
  let password ← perform (plainPassword c s.options)
  s.container.entry? name password

/-- All entries by alias. -/
def entries : Operation W (Table Entry) := do
  let s ← loadedStore
  let password ← perform (plainPassword c s.options)
  s.container.entries password

/-- The key managers over the private keys. -/
def keyManagers (algorithm : Option String) : Operation W (List Tls.KeyManager) := do
  let algorithm ← required algorithm noAlgorithm
  let s ← loadedStore
  let password ← perform (plainPassword c s.options)
  perform (Tls.KeyManager.ofContainer s.container password algorithm)

/-- A request for a certificate of the private key under an alias. -/
def request (name subject : String) : Operation W Keys.Request := do
  match ← entry? c (some name) with
  | some (.key e) => perform (Keys.request e subject)
  | some (.trusted _) =>
    throw (.invalidArgument ("Entry '" ++ name ++ "' is not a private key entry"))
  | none => throw (.invalidArgument ("No entry under alias '" ++ name ++ "'"))

/-! ### Changing -/

/-- Replaces the container that is served. -/
def setContainer (container : Container) : Operation W Unit := do
  let s ← loadedStore
  setState (.loaded { s with container })

/-- Stores the container after a change of one alias, which is undone if that fails. -/
def persist (password : Password) (name : String) (previous : Option StoredEntry) :
    Operation W Unit := do
  let s ← loadedStore
  tryCatch (perform (c.backend.store s.container s.options.path password)) fun e => do
    perform <| Act.report .warn "failed to persist keystore; change rolled back"
      [("alias", name), ("error", e.text)]
    setContainer (s.container.restore name previous)
    throw (e.classify .storePersist)

/-- Puts an entry under an alias. -/
def storeEntry (name : String) (entry : Entry) : Operation W Unit := do
  let s ← loadedStore
  let password ← perform (plainPassword c s.options)
  let (container, previous) ← perform (s.container.set name entry password)
  setContainer container
  persist c password name previous
  perform <| Act.report .info "entry stored"
    [("alias", name), ("private_key", if entry.isKey then "true" else "false")]

/-- Puts an entry under an alias, which may not be empty. -/
def setEntry (name : Option String) (entry : Option Entry) : Operation W Unit := do
  let name ← required name noAlias
  if name.isEmpty then throw (.invalidArgument emptyAlias)
  let entry ← required entry noEntry
  storeEntry c name entry

/-- Removes the entry under an alias, if there is one. -/
def deleteEntry (name : Option String) : Operation W Unit := do
  let name ← required name noAlias
  let s ← loadedStore
  if s.container.contains name then
    let password ← perform (plainPassword c s.options)
    let (container, previous) := s.container.delete name
    setContainer container
    persist c password name previous
    perform (Act.report .info "entry deleted" [("alias", name)])
  else perform (Act.report .debug "no entry to delete" [("alias", name)])

/-- Draws a key pair and puts it under an alias. -/
def createKeyPair (name : String) (algorithm : Keys.KeyAlgorithm) (subject : String) (days : Nat) :
    Operation W KeyEntry := do
  if name.isEmpty then throw (.invalidArgument emptyAlias)
  discard loadedStore
  let e ← perform (Keys.keyPair algorithm subject days)
  storeEntry c name (.key e)
  return e

end Keyring.Service
