import Mathlib.Data.List.Basic

/-!
# The ECR Client

`GetAuthorizationToken` of `agent/ecr/client.go` asks the ECR SDK for the authorization data
of one registry and returns the one result it gets, refusing any other number of them. The
SDK is not among the sources. It is a parameter, a function from the registry ids asked for
to the authorization data returned, or an error; the context and the options the call passes
are left out, as is the logging.

## Main definitions

* `getAuthorizationToken`: The call.

## Theorems

* `getAuthorizationToken_eq_ok_iff`: The call returns a result exactly when the SDK, asked
  for the one registry, returns that result alone.
-/

namespace EcsAgent

namespace Ecr

variable {α : Type}

/-- `GetAuthorizationToken`: the SDK's error, an error for a number of results other than
    one, or the one result. -/
def getAuthorizationToken (sdkGetAuthorizationToken : List String → Except String (List α))
    (registryId : String) : Except String α :=
  match sdkGetAuthorizationToken [registryId] with
  | .error err => .error err
  | .ok authorizationData =>
    match authorizationData with
    | [data] => .ok data
    | _ => .error ("unexpected number of results in AuthorizationData (" ++
        toString authorizationData.length ++ ")")

/-- The call returns a result exactly when the SDK, asked for the one registry and no other,
    returns that result alone. -/
theorem getAuthorizationToken_eq_ok_iff
    (sdkGetAuthorizationToken : List String → Except String (List α)) (registryId : String)
    (data : α) :
    getAuthorizationToken sdkGetAuthorizationToken registryId = .ok data ↔
      sdkGetAuthorizationToken [registryId] = .ok [data] := by
  unfold getAuthorizationToken
  rcases sdkGetAuthorizationToken [registryId] with err | _ | ⟨d, _ | ⟨d', rest⟩⟩ <;> simp

end Ecr

end EcsAgent
