import ApiDiscovery.Format.Record

/-!
Schema documents: the declaration of one group version in the older format, and the document of the
whole cluster in the newer one. Only their outermost records are typed.
-/

namespace ApiDiscovery

structure SwaggerDeclaration where
  swaggerVersion : String := ""
  apiVersion : String := ""
  basePath : String := ""
  resourcePath : String := ""
  apis : List Value := []
  models : Table Value := Table.empty
  deriving DecidableEq, Inhabited

namespace SwaggerDeclaration

def format : Format SwaggerDeclaration :=
  .record .strict
    (.field (.defaulted "swaggerVersion" .text "") <|
      .field (.defaulted "apiVersion" .text "") <|
      .field (.defaulted "basePath" .text "") <|
      .field (.defaulted "resourcePath" .text "") <|
      .field (.defaulted "apis" (.list .value) []) <|
      .field (.defaulted "models" (.table .value) Table.empty) .done)
    (fun (swaggerVersion, apiVersion, basePath, resourcePath, apis, models, ()) =>
      { swaggerVersion, apiVersion, basePath, resourcePath, apis, models })
    fun declaration =>
      (declaration.swaggerVersion, declaration.apiVersion, declaration.basePath,
        declaration.resourcePath, declaration.apis, declaration.models, ())

def model? (declaration : SwaggerDeclaration) (id : String) : Option Value :=
  declaration.models.find? id

end SwaggerDeclaration

structure DocumentInfo where
  title : String := ""
  version : String := ""
  deriving DecidableEq, Repr, Inhabited

def DocumentInfo.format : Format DocumentInfo :=
  .record .strict
    (.field (.defaulted "title" .text "") <| .field (.defaulted "version" .text "") .done)
    (fun (title, version, ()) => { title, version })
    fun info => (info.title, info.version, ())

structure OpenApiDocument where
  swagger : String := ""
  info : DocumentInfo := {}
  paths : Table Value := Table.empty
  definitions : Table Value := Table.empty
  deriving DecidableEq, Inhabited

namespace OpenApiDocument

def format : Format OpenApiDocument :=
  .record .strict
    (.field (.defaulted "swagger" .text "") <|
      .field (.defaulted "info" DocumentInfo.format {}) <|
      .field (.defaulted "paths" (.table .value) Table.empty) <|
      .field (.defaulted "definitions" (.table .value) Table.empty) .done)
    (fun (swagger, info, paths, definitions, ()) => { swagger, info, paths, definitions })
    fun document => (document.swagger, document.info, document.paths, document.definitions, ())

def definition? (document : OpenApiDocument) (name : String) : Option Value :=
  document.definitions.find? name

end OpenApiDocument

end ApiDiscovery
