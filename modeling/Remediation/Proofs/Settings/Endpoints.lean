import Remediation.Command.Completion
import Remediation.Proofs.Document.Records
import Remediation.Proofs.Table

/-! Which endpoint a service has. The settings of a file name each service at most once, and a
service that they name has the endpoint that they give it. An endpoint given with a command is the
one of all other services.
-/

namespace Remediation

-----------------------------------------------------------------------------------------
-- The endpoints in a file
-----------------------------------------------------------------------------------------

/-- A table that is read from a document has its keys in ascending order. -/
theorem Document.ordered_of_table {ε α : Type} {format : Format} {read : Node → Shaped ε α}
    {node : Node} {parts : Table α} (taken : table format read node = .ok parts)
    : parts.Ordered := by
  unfold table at taken
  split at taken
  · obtain ⟨entries, _, same⟩ := exceptBind_eq_ok_iff.mp taken
    cases same
    exact .ofList entries
  · split at taken
    · cases taken
      exact List.Pairwise.nil
    · cases taken

namespace Settings

/-- Every setting that is taken from a file leaves the endpoints in order. -/
theorem take_keeps_ordered
    : Document.Keeps (fun settings : Settings => Table.Ordered settings.endpoints) take := by
  intro settings field node taken ordered read
  unfold take at read
  split at read
  · obtain ⟨_, _, same⟩ := exceptBind_eq_ok_iff.mp read
    cases same
    exact ordered
  · obtain ⟨_, _, same⟩ := exceptBind_eq_ok_iff.mp read
    cases same
    exact ordered
  · obtain ⟨endpoints, table, same⟩ := exceptBind_eq_ok_iff.mp read
    cases same
    exact Document.ordered_of_table table
  · obtain ⟨_, _, same⟩ := exceptBind_eq_ok_iff.mp read
    cases same
    exact ordered
  · obtain ⟨_, _, same⟩ := exceptBind_eq_ok_iff.mp read
    cases same
    exact ordered

/-- The endpoints in the settings of a file are in the order of their services. -/
theorem ordered_load (file : Option String) : Table.Ordered (load file).endpoints := by
  have empty : Table.Ordered ({} : Settings).endpoints := List.Pairwise.nil
  unfold load
  split
  · rename_i settings found
    obtain ⟨source, _, read⟩ := Option.map_eq_some_iff.mp found
    unfold parse at read
    split at read
    · cases read
    · split at read
      · rename_i taken
        cases read
        exact take_keeps_ordered.record empty taken
      · cases read
  · exact empty

end Settings

-----------------------------------------------------------------------------------------
-- The endpoints of a gateway
-----------------------------------------------------------------------------------------

namespace Gateway

/-- Gives services endpoints of their own, one after the other. -/
def withEndpoints (gateway : Gateway) (endpoints : Table String) : Gateway :=
  endpoints.foldl (fun gateway (service, endpoint) => gateway.withEndpoint service endpoint) gateway

/-- A service has the endpoint that it was given, if no service is given two of them. -/
theorem get?_withEndpoints (gateway : Gateway) {endpoints : Table String}
    (distinct : (Table.keys endpoints).Nodup) (service : String)
    : Table.get? (gateway.withEndpoints endpoints).endpoints service
      = ((Table.get? endpoints service).map trimEndpoint).or
          (Table.get? gateway.endpoints service) := by
  induction endpoints generalizing gateway with
  | nil => rfl
  | cons entry rest ih =>
      obtain ⟨other, endpoint⟩ := entry
      obtain ⟨absent, distinct⟩ := List.nodup_cons.mp distinct
      have first := ih (gateway.withEndpoint other endpoint) distinct
      change Table.get? ((gateway.withEndpoint other endpoint).withEndpoints rest).endpoints service
        = _
      rw [first, withEndpoint, Table.get?_insert]
      by_cases same : service = other
      · subst same
        rw [if_pos rfl, Table.get?_eq_none_of_not_mem absent]
        simp [Table.get?]
      · rw [if_neg same]
        simp [Table.get?, List.lookup_cons, beq_false_of_ne same]

end Gateway

-----------------------------------------------------------------------------------------
-- The gateway of a command
-----------------------------------------------------------------------------------------

namespace Surroundings

variable {surroundings : Surroundings} {options : CommonOptions} {gateway : Gateway}

/-- The gateway of a command with a project and credentials: the services in the settings have the
endpoints there, and an endpoint of the options is the one of all others. -/
def gatewayFor (surroundings : Surroundings) (options : CommonOptions) (project : String)
    (credentials : Credentials) : Gateway :=
  let settings := surroundings.settings
  let region := settings.effectiveRegion options.region surroundings.environment
  let gateway : Gateway := { credentials := credentials, project := project, region := region }
  let gateway := gateway.withEndpoints settings.endpoints
  options.endpoint.elim gateway gateway.withDefaultEndpoint

/-- A command has a gateway exactly if it has a project and credentials. -/
theorem gateway_eq_ok_iff
    : surroundings.gateway options = .ok gateway
      ↔ ∃ project credentials,
          surroundings.settings.effectiveProject options.project surroundings.environment
            = some project
          ∧ Credentials.ofEnvironment? surroundings.environment = some credentials
          ∧ surroundings.gatewayFor options project credentials = gateway := by
  cases configured
      : surroundings.settings.effectiveProject options.project surroundings.environment with
  | none => simp [Surroundings.gateway, configured]
  | some project =>
      cases authorized : Credentials.ofEnvironment? surroundings.environment with
      | none => simp [Surroundings.gateway, configured, authorized]
      | some credentials =>
          simp [Surroundings.gateway, configured, authorized, gatewayFor, Gateway.withEndpoints]

/-- The endpoint of the options is the one of every service that has none of its own in the
settings. -/
theorem serviceUrl_gatewayFor {endpoint : String} (given : options.endpoint = some endpoint)
    (project : String) (credentials : Credentials) (service : String)
    : (surroundings.gatewayFor options project credentials).serviceUrl service
      = Gateway.trimEndpoint
          ((Table.get? surroundings.settings.endpoints service).getD endpoint) := by
  have distinct : (Table.keys surroundings.settings.endpoints).Nodup :=
    (Settings.ordered_load surroundings.settingsFile).distinct
  unfold gatewayFor
  rw [given]
  simp only [Option.elim, Gateway.withDefaultEndpoint, Gateway.serviceUrl,
    Gateway.get?_withEndpoints _ distinct]
  cases Table.get? surroundings.settings.endpoints service with
  | none => rfl
  | some own => rfl

/-- A command that is given an endpoint calls there every service without an endpoint of its own in
the settings, and the others at their own. So the calls of a service go to the given endpoint exactly
if the settings name no other one for it. -/
theorem serviceUrl_given {endpoint : String} (given : options.endpoint = some endpoint)
    (reached : surroundings.gateway options = .ok gateway) (service : String)
    : gateway.serviceUrl service
        = Gateway.trimEndpoint
            ((Table.get? surroundings.settings.endpoints service).getD endpoint)
      ∧ (gateway.serviceUrl service = Gateway.trimEndpoint endpoint
          ↔ ∀ own, Table.get? surroundings.settings.endpoints service = some own
            → Gateway.trimEndpoint own = Gateway.trimEndpoint endpoint) := by
  obtain ⟨project, credentials, _, _, rfl⟩ := gateway_eq_ok_iff.mp reached
  have url : (surroundings.gatewayFor options project credentials).serviceUrl service = _ :=
    serviceUrl_gatewayFor given project credentials service
  refine ⟨url, ?_⟩
  rw [url]
  cases Table.get? surroundings.settings.endpoints service with
  | none => simp
  | some own => simp

end Surroundings

namespace Sample

/-- The surroundings of a user with a token, whose settings have an endpoint for one service. -/
def surroundings : Surroundings :=
  {
    environment := { token := some "token", project := some "home" },
    settingsPath := some "config.json",
    settingsFile := some "\x7b\"endpoints\": \x7b\"ces\": \"http://own/\"\x7d\x7d",
    fileText := fun _ => .error "missing",
    logFault := fun _ => none
  }

/-- The options of a command that is given an endpoint. -/
def sentElsewhere : CommonOptions := { endpoint := some "http://given//" }

/-- The settings have one endpoint. -/
theorem surroundings_endpoints : surroundings.settings.endpoints = [("ces", "http://own/")] := by
  decide +kernel

end Sample

/-- One of two services has an endpoint in the settings, and only the other one is called where the
command is told to call every service. -/
theorem Surroundings.serviceUrl_given_elsewhere
    : ∃ gateway,
        Sample.surroundings.gateway Sample.sentElsewhere = .ok gateway
        ∧ gateway.serviceUrl "smn" = "http://given"
        ∧ gateway.serviceUrl "ces" = "http://own" := by
  obtain ⟨gateway, reached⟩
      : ∃ gateway, Sample.surroundings.gateway Sample.sentElsewhere = .ok gateway :=
    ⟨_, gateway_eq_ok_iff.mpr ⟨"home", ⟨"token"⟩, by decide +kernel, by decide +kernel, rfl⟩⟩
  have notNamed := (Surroundings.serviceUrl_given rfl reached "smn").1
  have named := (Surroundings.serviceUrl_given rfl reached "ces").1
  rw [Sample.surroundings_endpoints] at notNamed named
  refine ⟨gateway, reached, notNamed.trans ?_, named.trans ?_⟩
  · decide +kernel
  · decide +kernel

end Remediation
