import ClosedLoop.Construction.Response.Value

namespace ClosedLoop.Transport

open ClosedLoop.Library ClosedLoop.Response

section Script

/-- `OP_ID.fullmatch`. -/
def isOperationId (text : String) : Bool :=
  16 ≤ text.toList.length && text.toList.length ≤ 128 &&
    text.toList.all fun char => char.isAlphanum || char ∈ ['.', '_', ':', '-']

/-- `marker_name` -/
def markerName (python : Python) (operation : String) : String := truncate 40 (python.sha256Hex operation)

/-- The rules of one hook. A family without addresses has no rule. -/
def hookRules (hook interface direction : String) (v4 v6 : List String) : List String :=
  let rule := "add rule inet cxyz_isolation " ++ hook ++ " "
  let accept := fun (family : String) (addresses : List String) =>
    if addresses = [] then []
    else [rule ++ family ++ " " ++ direction ++ " \x7b " ++ String.intercalate ", " addresses ++ " \x7d accept"]
  [rule ++ interface ++ " lo accept", rule ++ "ct state established,related accept"] ++ accept "ip" v4 ++ accept "ip6" v6

/-- `ruleset` -/
def ruleset (allowed : List String) : String :=
  let v4 := allowed.filter fun address => ':' ∉ address.toList
  let v6 := allowed.filter fun address => ':' ∈ address.toList
  let chains := ["input", "output", "forward"].map fun hook =>
    "add chain inet cxyz_isolation " ++ hook ++ " \x7b type filter hook " ++ hook ++ " priority -150; policy drop; \x7d"
  String.intercalate "\n" (["add table inet cxyz_isolation", "delete table inet cxyz_isolation",
    "add table inet cxyz_isolation"] ++ chains ++ hookRules "input" "iifname" "saddr" v4 v6 ++
    hookRules "output" "oifname" "daddr" v4 v6) ++ "\n"

/-- An endpoint with the ruleset of its isolation table, when there is one, and the files in its marker directory. -/
structure Endpoint where
  table : Option String := none
  markers : List String := []
  deriving DecidableEq

/-- The host is isolated. -/
def Endpoint.isolated (endpoint : Endpoint) : Bool := endpoint.table.isSome

variable (python : Python)

/-- `isolate`, with what `load_allowed` gives and whether `nft -f` succeeds. -/
def isolate (endpoint : Endpoint) (operation : String) (allowed : Except PyError (List String)) (nft : Bool) :
    Except PyError Unit × Endpoint :=
  if !isOperationId operation then (.error (.valueError "invalid operation id"), endpoint)
  else match allowed with
    | .error error => (.error error, endpoint)
    | .ok addresses =>
        if !nft then (.error (.runtimeError "nft refused the isolation ruleset"), endpoint)
        else (.ok (), { table := some (ruleset addresses), markers := endpoint.markers.insert (markerName python operation) })

/-- `restore`, with whether `nft delete` works. Without a table it reports that there is none, and the call goes on. -/
def restore (endpoint : Endpoint) (operation : String) (nft : Bool) : Except PyError Unit × Endpoint :=
  if !isOperationId operation then (.error (.valueError "invalid operation id"), endpoint)
  else if !nft then (.error (.runtimeError "nft could not remove the isolation table"), endpoint)
  else (.ok (), { table := none, markers := endpoint.markers.filter (· ≠ markerName python operation) })

/-- A call of the script with the answers that it gets. -/
inductive ScriptCall where
  | isolate (operation : String) (allowed : Except PyError (List String)) (nft : Bool)
  | restore (operation : String) (nft : Bool)

def ScriptCall.operation : ScriptCall → String
  | .isolate operation _ _ => operation
  | .restore operation _ => operation

def Endpoint.step (endpoint : Endpoint) : ScriptCall → Endpoint
  | .isolate operation allowed nft => (Transport.isolate python endpoint operation allowed nft).2
  | .restore operation nft => (Transport.restore python endpoint operation nft).2

/-- An endpoint after a list of calls. -/
def Endpoint.run (calls : List ScriptCall) : Endpoint := calls.foldl (Endpoint.step python) {}

end Script

section Client

variable (python : Python)

/-- `_marker_present` reads the inventory of the marker directory. -/
def markerPresent (inventory : List String) (operation : String) : Bool := markerName python operation ∈ inventory

/-- `_await` reads the inventory again and again up to its deadline. -/
def awaitMarker (inventories : List (List String)) (operation : String) (present : Bool) : Bool :=
  inventories.any fun inventory => markerPresent python inventory operation = present

/-- `isolation_is_enforced` -/
def isolationIsEnforced (inventories : List (List String)) (operation : String) : Bool :=
  awaitMarker python inventories operation true

/-- `isolation_is_removed` -/
def isolationIsRemoved (inventories : List (List String)) (operation : String) : Bool :=
  awaitMarker python inventories operation false

end Client

end ClosedLoop.Transport
