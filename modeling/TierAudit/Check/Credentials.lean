import TierAudit.Finding
import TierAudit.Text.Case
import TierAudit.Variables

/-!
# Check — credentials

A connection logs in as the service's own identity or as the read-only alternate one, and what its
schema and its password have to be depends on which of them its user names:

| user               | schema                   | password                      |
|--------------------|--------------------------|-------------------------------|
| the alternate one  | the alternate identity   | the baseline's alternate one  |
| any other          | the baseline's           | the baseline's                |
-/

namespace TierAudit
open Text

/-- The names of the variables that hold a connection's credentials. -/
structure CredentialKeys where
  user : String
  schemaName : String
  password : String
  /-- The variable of the baseline that holds the alternate identity's password. -/
  alternatePassword : String
  alternateIdentity : String
  deriving DecidableEq, Repr

namespace CredentialKeys

/-- The path that the variables of the usual connection have in common. -/
def defaultConnection : String := "//common-om-connections///Connections/JDBC/Postgres_Appl/"

def defaultAlternate : String := "omselect"

/-- The variables of a connection. -/
def ofConnection (connection alternate : String) : CredentialKeys where
  user := connection ++ "USER"
  schemaName := connection ++ "SCHEMA_NAME"
  password := connection ++ "PASSWORD"
  alternatePassword := connection ++ "PASSWORD_" ++ alternate
  alternateIdentity := alternate

/-- The variables of the usual connection. -/
def default : CredentialKeys := ofConnection defaultConnection defaultAlternate

/-- The names that are left to the check of credentials. -/
def names (keys : CredentialKeys) : List String :=
  [keys.user, keys.schemaName, keys.password, keys.alternatePassword]

/-- Whether a user is the alternate identity, in whatever case it is written. -/
def isAlternate (keys : CredentialKeys) (user : String) : Bool :=
  equalsIgnoringCase user keys.alternateIdentity

/-- What the schema of a user has to be. -/
def expectedSchema? (keys : CredentialKeys) (baseline : Variables) (user : String) :
    Option String :=
  if keys.isAlternate user then some keys.alternateIdentity else baseline.get? keys.schemaName

/-- What the password of a user has to be.  A baseline may leave secrets out. -/
def expectedPassword? (keys : CredentialKeys) (baseline : Variables) (user : String) :
    Option String :=
  baseline.get? (if keys.isAlternate user then keys.alternatePassword else keys.password)

end CredentialKeys

namespace Check

/-- The findings on the credentials of a tier.  There are none unless it declares both a user and a
schema; a password that is not declared is no defect. -/
def credentials (tier : Tier) (keys : CredentialKeys) (vars baseline : Variables) :
    List Finding :=
  match vars.get? keys.user, vars.get? keys.schemaName with
  | some user, some schema =>
    let schemas := (keys.expectedSchema? baseline user).toList.filter (· ≠ schema)
    let passwords := match vars.get? keys.password with
      | some password =>
        ((keys.expectedPassword? baseline user).toList.filter (· ≠ password)).map
          fun expected => .of tier (.passwordMismatch user expected password)
      | none => []
    schemas.map (fun expected => .of tier (.schemaMismatch user expected schema)) ++ passwords
  | _, _ => []

end Check

end TierAudit
