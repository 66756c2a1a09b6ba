import CriticalCss.Config
import CriticalCss.Input.Field
/-! Reading the configuration. Every setting is checked, be it one that is kept or one that matters
only to what surrounds the service, and a name that belongs to no setting is a problem too.
-/

namespace CriticalCss.Config

open Input

/-- The names of all settings, in the order in which they are checked. -/
def settingNames : List String :=
  ["app_name", "environment", "debug", "log_json", "api_v1_prefix", "cors_allowed_origins",
    "redis_url", "celery_broker_url", "celery_result_backend", "default_viewport_width",
    "default_viewport_height", "extraction_timeout_ms", "render_wait_time_ms", "block_js_requests",
    "max_embedded_base64_length", "user_agent", "properties_to_remove", "clearing_properties",
    "query_concurrency", "stylesheet_root", "browser_headless", "browser_keep_alive",
    "browser_max_open_pages", "browser_launch_args", "browser_default_headers", "auth_api_key",
    "auth_token_header"]

/-- Checks a setting that is not kept. -/
def checkSetting {α : Type} (json : Json) (name : String) (read : Json → Checked α)
    : Checked Unit :=
  field json name () fun value => (read value).map fun _ => ()

/-- Refuses the members whose names belong to no setting. -/
def checkNames : Json → Checked Unit
  | .obj members =>
    (Checked.all ((members.filter fun member => !settingNames.contains member.1).map fun member =>
      (Checked.fail .unknownField : Checked Unit).inside (.field member.1))).map fun _ => ()
  | _ => .ok ()

/-- Puts the settings of a configuration together. -/
def assemble (environment : String) (width height timeout settling : Int) (blockScripts : Bool)
    (payloadLimit : Int) (userAgent : String) (unwanted clearing : List String)
    (concurrency : Int) (stylesheetRoot : Option String) (headless keepAlive : Bool)
    (maxOpenPages : Int) (launchArguments : List String) (headers : List (String × String))
    (apiKey : Option String)
    : Config :=
  ⟨environment, ⟨width, height⟩, timeout, settling, blockScripts, payloadLimit, userAgent, unwanted,
    clearing, concurrency, stylesheetRoot, headless, keepAlive, maxOpenPages, launchArguments,
    headers, apiKey⟩

/-- Checks the settings of what surrounds the service. -/
def checkSurroundings (json : Json) : Checked Unit :=
  checkSetting json "debug" choice
    *> checkSetting json "log_json" choice
    *> checkSetting json "api_v1_prefix" text
    *> checkSetting json "cors_allowed_origins" (list text)
    *> checkSetting json "redis_url" text
    *> checkSetting json "celery_broker_url" (optional text)
    *> checkSetting json "celery_result_backend" (optional text)

/-- Reads a configuration. Settings that are not there have their defaults. -/
def read (json : Json) : Checked Config :=
  let base : Config := {}
  assemble
    <$> (checkSetting json "app_name" text *> field json "environment" base.environment text)
    <*> (checkSurroundings json
      *> field json "default_viewport_width" base.viewport.width number)
    <*> field json "default_viewport_height" base.viewport.height number
    <*> field json "extraction_timeout_ms" base.timeout number
    <*> field json "render_wait_time_ms" base.settling number
    <*> field json "block_js_requests" base.blockScripts choice
    <*> field json "max_embedded_base64_length" base.payloadLimit number
    <*> field json "user_agent" base.userAgent text
    <*> field json "properties_to_remove" base.unwanted (list text)
    <*> field json "clearing_properties" base.clearing (list text)
    <*> field json "query_concurrency" base.concurrency number
    <*> field json "stylesheet_root" base.stylesheetRoot (optional text)
    <*> field json "browser_headless" base.headless choice
    <*> field json "browser_keep_alive" base.keepAlive choice
    <*> field json "browser_max_open_pages" base.maxOpenPages number
    <*> field json "browser_launch_args" base.launchArguments (list text)
    <*> field json "browser_default_headers" base.headers table
    <*> field json "auth_api_key" base.apiKey (optional text)
    <* checkSetting json "auth_token_header" text
    <* checkNames json

end CriticalCss.Config
