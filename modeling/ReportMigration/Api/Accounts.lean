import ReportMigration.Api.Response
/-!
Routes for accounts and organisations.
-/
namespace ReportMigration.Api

/-- A route that has a method of the account service carried out. -/
def account (method : String) (args : List Source) : RouteHandler :=
  relay "AuthService.execute" (.method ("AuthService." ++ method) :: args)

/-- The token in a header, which may say what kind of token it is. -/
def bareToken (header : String) : String :=
  if (Text.lower header).startsWith "bearer " then Text.trim (.ofList (header.toList.drop 7))
  else Text.trim header

/-- Signs out: both tokens are passed on bare. -/
def signOut : RouteHandler := fun a => do
  let tokens : List Value := [.text (bareToken (a.text "authorization")),
    .text (bareToken (a.text "x_refresh_token"))]
  let reply ← Op.call "AuthService.execute"
    [.method "AuthService.logout_user", .list (a.get "email" :: tokens)]
  Op.ofExcept (Response.ofReply reply)

def accounts : List Route :=
  [⟨.post, "/register", "register_user", account "register_user" [.given "data"]⟩,
    ⟨.post, "/login", "login_user", account "login_user" [.given "data"]⟩,
    ⟨.post, "/refresh-token", "refresh_token", account "refresh_token" [.given "data"]⟩,
    ⟨.post, "/reset-password", "reset_password",
      account "reset_password" [.given "data", .given "user_email"]⟩,
    ⟨.post, "/logout", "logout_user", signOut⟩,
    ⟨.post, "/add-user-details", "add_user_details", account "add_user_service" [.given "data"]⟩,
    ⟨.post, "/add-user-test", "add_user_test", account "add_user_test" [.given "data"]⟩,
    ⟨.post, "/role-info", "get_role_info", account "get_all_roles" []⟩,
    ⟨.post, "/get-managers", "get_managers",
      relay "AuthService.get_organization_managers" [.given "organization_id"]⟩,
    ⟨.post, "/get-users", "get_users",
      relay "AuthService.get_organization_users" [.given "organization_id"]⟩,
    ⟨.patch, "/update-user", "update_user",
      relay "AuthService.update_user_details"
        [.given "user_id", .given "request_body", .given "current_user"]⟩]

def organizations : List Route :=
  [⟨.post, "/add-organization-test", "organization_details",
      relay "OrganizationProcessor.create_organization_details" [.given "organization"]⟩,
    ⟨.post, "/upload-logo", "upload_logo",
      relay "OrganizationProcessor.upload_organization_logo" [.given "logo"]⟩,
    ⟨.get, "/logo", "get_organization_logo",
      relay "OrganizationProcessor.get_organization_logo"⟩]

end ReportMigration.Api
