/-!
The manifest the program ships with: users who log in, projects they own, and the audit records
written when either changes.
-/

namespace CrudRoutes

def defaultManifest : String :=
  "auth:\n" ++
  "  usersEntity: User\n" ++
  "\n" ++
  "entities:\n" ++
  "  - name: User\n" ++
  "    collection: users\n" ++
  "    softDeletable: true\n" ++
  "    fields:\n" ++
  "      - \x7b name: email, kind: string, required: true, unique: true \x7d\n" ++
  "      - \x7b name: password, kind: string, required: true \x7d\n" ++
  "      - \x7b name: roles, kind: array \x7d\n" ++
  "      - \x7b name: displayName, kind: string \x7d\n" ++
  "    controller:\n" ++
  "      basePath: users\n" ++
  "      realtime: true\n" ++
  "      abilities:\n" ++
  "        GetMany: admin\n" ++
  "        CreateOne: admin\n" ++
  "        CreateMany: admin\n" ++
  "        DeleteOne: admin\n" ++
  "        DeleteMany: admin\n" ++
  "    routes:\n" ++
  "      - \x7b type: GetOne, ability: authenticated, presenter: hide-password \x7d\n" ++
  "      - \x7b type: GetMany, presenter: hide-password, exclude: [password] \x7d\n" ++
  "      - \x7b type: CreateOne, body: hash-password, presenter: hide-password, afterSave: audit-trail \x7d\n" ++
  "      - \x7b type: CreateMany, body: hash-password, presenter: hide-password \x7d\n" ++
  "      - \x7b type: UpdateOne, ability: admin, body: hash-password, presenter: hide-password, afterSave: audit-trail \x7d\n" ++
  "      - \x7b type: DeleteOne \x7d\n" ++
  "      - \x7b type: DeleteMany \x7d\n" ++
  "\n" ++
  "  - name: Project\n" ++
  "    collection: projects\n" ++
  "    softDeletable: true\n" ++
  "    fields:\n" ++
  "      - \x7b name: name, kind: string, required: true \x7d\n" ++
  "      - \x7b name: slug, kind: string, required: true \x7d\n" ++
  "      - \x7b name: ownerId, kind: string \x7d\n" ++
  "      - \x7b name: tags, kind: array \x7d\n" ++
  "      - \x7b name: budget, kind: number \x7d\n" ++
  "    uniqueIndexes:\n" ++
  "      - [ownerId, slug]\n" ++
  "    controller:\n" ++
  "      basePath: projects\n" ++
  "      tag: Projects\n" ++
  "      realtime: true\n" ++
  "      abilities:\n" ++
  "        GetOne: owner\n" ++
  "        CreateOne: authenticated\n" ++
  "        CreateMany: authenticated\n" ++
  "        UpdateOne: owner\n" ++
  "        UpdateMany: admin\n" ++
  "        DeleteOne: owner\n" ++
  "        DuplicateOne: owner\n" ++
  "        ReplaceOne: owner\n" ++
  "    routes:\n" ++
  "      - \x7b type: GetOne \x7d\n" ++
  "      - \x7b type: GetOne, version: \"2\", exclude: [budget], eventName: get-one-project-v2 \x7d\n" ++
  "      - \x7b type: GetMany \x7d\n" ++
  "      - \x7b type: CreateOne, exclude: [ownerId], beforeCreate: set-owner, afterSave: audit-trail \x7d\n" ++
  "      - \x7b type: CreateMany, exclude: [ownerId], beforeCreate: set-owner \x7d\n" ++
  "      - \x7b type: UpdateOne, exclude: [ownerId], beforeSave: keep-owner, afterSave: audit-trail \x7d\n" ++
  "      - \x7b type: UpdateMany, exclude: [ownerId] \x7d\n" ++
  "      - \x7b type: DeleteOne \x7d\n" ++
  "      - \x7b type: DeleteMany, ability: admin \x7d\n" ++
  "      - \x7b type: DuplicateOne, exclude: [ownerId] \x7d\n" ++
  "      - \x7b type: DuplicateMany, exclude: [ownerId], ability: admin \x7d\n" ++
  "      - \x7b type: ReplaceOne, exclude: [ownerId], beforeSave: keep-owner \x7d\n" ++
  "\n" ++
  "  - name: Audit\n" ++
  "    collection: audit_logs\n" ++
  "    fields:\n" ++
  "      - \x7b name: documentId, kind: string \x7d\n" ++
  "      - \x7b name: actorId, kind: string \x7d\n" ++
  "      - \x7b name: actorEmail, kind: string \x7d\n" ++
  "    controller:\n" ++
  "      basePath: audit\n" ++
  "      abilities:\n" ++
  "        GetOne: admin\n" ++
  "        GetMany: admin\n" ++
  "    routes:\n" ++
  "      - \x7b type: GetOne \x7d\n" ++
  "      - \x7b type: GetMany \x7d\n"

end CrudRoutes
