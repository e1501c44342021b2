import ReportMigration.Api.Response
/-!
Routes for folders and the files in them.
-/
namespace ReportMigration.Api

/-- The folder whose parts are listed; none is above all folders. -/
def parentFolder : Value → Except Fault Value
  | .null => .ok .null
  | .text "null" => .ok .null
  | v => v.toId.map .id

/-- The folder to which files are uploaded. -/
def uploadFolder : Value → Except Fault Value
  | .null => .ok .null
  | .text s =>
    if ["", "null", "None"].contains s then .ok .null
    else match Id.ofText s with
      | .ok i => .ok (.id i)
      | .error _ => .error <| .refuseSilently .badRequest
          "Invalid parent_id format. Expected UUID or null."
  | v => v.toId.map .id

def foldersByParent : RouteHandler := fun a => do
  let parent ← Op.ofExcept (parentFolder (a.get "parent_id"))
  let reply ← Op.call "FolderProcessor.process_get_folders_by_parent" [parent]
  Op.ofExcept (Response.ofReply reply)

def uploadToFolder : RouteHandler := fun a => do
  let parent ← Op.ofExcept (uploadFolder (a.get "parent_id"))
  let reply ← Op.call "FolderProcessor.process_upload_file" [a.get "uploaded_file", parent]
  let data ← Op.call "convert_uuid_to_string" [← Op.ofExcept (reply.attr "data")]
  Op.ofExcept do
    let error ← reply.attr "error"
    Response.send (← reply.attr "status_code") (.map [("data", data), ("error", error)])

def folders : List Route :=
  [⟨.get, "/folders", "get_all_folders", relay "FolderProcessor.process_get_all_folders"⟩,
    ⟨.post, "/folders", "create_folder",
      relay "FolderProcessor.process_create_folder" [.given "folder"]⟩,
    ⟨.get, "/folders/by-parent", "get_by_parent", foldersByParent⟩,
    ⟨.get, "/folders/base", "get_null_folders",
      relay "FolderProcessor.process_get_root_folders"⟩,
    ⟨.delete, "/folders/\x7bfolder_id\x7d", "delete_folder",
      relay "FolderProcessor.process_soft_delete" [.given "folder_id"]⟩,
    ⟨.put, "/folders/\x7bfolder_id\x7d", "update_folder",
      relay "FolderProcessor.process_update_folder" [.given "folder_id", .given "folder_update"]⟩,
    ⟨.post, "/upload-file", "upload_file", uploadToFolder⟩,
    ⟨.get, "/folders/tree/\x7bfolder_id\x7d", "get_folder_tree",
      relay "FolderProcessor.process_get_folder_tree" [.given "folder_id"]⟩,
    ⟨.get, "/workspace/upload-files", "get_folder_summary",
      relay "FolderProcessor.process_get_folder_summary"⟩,
    ⟨.get, "/workspace/upload-files/\x7bproject_id\x7d", "get_folder_summary_by_project_id",
      relay "FolderProcessor.process_get_folder_summary_by_project_id" [.given "project_id"]⟩]

end ReportMigration.Api
