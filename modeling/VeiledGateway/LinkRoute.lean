/-
  Link routes: the paths that stand for links, `/<prefix>/<token>`, with any extension after the
  token.
-/
import VeiledGateway.Context

set_option autoImplicit false

namespace VeiledGateway

/-- How the paths of links begin: with a slash before and after. -/
structure LinkRoute where
  lead : Text
deriving DecidableEq

namespace LinkRoute

/-- The route of a prefix, with or without slashes at its ends. -/
def ofPrefix (t : Text) : LinkRoute :=
  let slash := CodePoint.ofChar '/'
  ⟨slash :: Text.trimWhere (· == slash) t ++ [slash]⟩

/-- The token of a path of this route. -/
def token? (route : LinkRoute) (path : Text) : Option Text :=
  match Text.dropPrefix? path route.lead with
  | none => none
  | some rest =>
    if rest.isEmpty || List.contains rest (CodePoint.ofChar '/') then none
    else
      let tok := (Text.cutAtCode '.' rest).1
      if tok.isEmpty then none else some tok

/-- The original path for a path of this route. -/
def resolve (route : LinkRoute) (path : Text) (context : Context) : Option Text :=
  (route.token? path).bind context.originalLink

end LinkRoute

end VeiledGateway
